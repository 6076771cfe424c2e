/-
Running tasks in turn, and letting time pass between their timers.

`settle` runs tasks, each for a burst of moves, until all of them wait; `advance` then moves the clock from
timer to timer, so that each fires at its own time.
-/
namespace ChainFeed.Schedule

/-- a task: its next move, or `none` while it waits -/
abbrev Task (State : Type) := State → Option State

/-- the moves that a task makes at most before the next task runs -/
def burst : Nat := 128

/-- runs a task until it waits, for a number of moves at most: whether it moved at all -/
def run (task : Task State) : Nat → State → State × Bool
  | 0, s => (s, false)
  | moves + 1, s =>
    match task s with
    | none => (s, false)
    | some t => ((run task moves t).1, true)

/-- runs each of a list of tasks for a burst: whether any of them moved -/
def round : List (Task State) → State → State × Bool
  | [], s => (s, false)
  | task :: rest, s =>
    let (s, moved) := run task burst s
    let (s, others) := round rest s
    (s, moved || others)

/-- runs the tasks in turn until all of them wait, for a number of rounds at most -/
def settle (tasks : State → List (Task State)) : Nat → State → State
  | 0, s => s
  | rounds + 1, s =>
    let (t, moved) := round (tasks s) s
    if moved then settle tasks rounds t else t

/-- a system with a clock -/
structure Timed (State : Type) where
  now : State → Nat
  /-- sets the clock -/
  setNow : State → Nat → State
  /-- lets everything happen that needs no time -/
  settle : State → State
  /-- the times of the timers -/
  deadlines : State → List Nat

namespace Timed

/-- the next timer that is still to come -/
def nextTimer (m : Timed State) (s : State) : Option Nat :=
  ((m.deadlines s).filter fun t => m.now s < t).min?

/-- lets time pass up to a point, or until the system is `done`, over a number of timers at most -/
def advanceTo (m : Timed State) (done : State → Bool) (target : Nat) : Nat → State → State
  | 0, s => s
  | timers + 1, s =>
    let s := m.settle s
    if done s then s
    else
      match m.nextTimer s with
      | some t =>
        if t ≤ target then advanceTo m done target timers (m.setNow s t) else m.setNow s target
      | none => m.setNow s target

/-- lets time pass until the system is `done`, or for `ms` milliseconds -/
def advanceUntil (m : Timed State) (done : State → Bool) (ms : Nat) (s : State) : State :=
  m.advanceTo done (m.now s + ms) (ms + 1) s

/-- lets `ms` milliseconds pass -/
def advance (m : Timed State) (ms : Nat) (s : State) : State :=
  m.advanceUntil (fun _ => false) ms s

end Timed

end ChainFeed.Schedule
