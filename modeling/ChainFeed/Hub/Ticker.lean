/-
The timer that raises the flag for the periodic flush.

The flag is raised one interval after the start, then at each earlier deadline plus the interval; a reset
moves the pending deadline to one interval after the reset. Resets reach the timer through a short queue:
one that finds the queue full is dropped, since those before it already restart the interval.
-/
namespace ChainFeed

/-- the lateness, in milliseconds, up to which a beat does not move the ones after it -/
def tolerance : Nat := 5

/-- the deadline after one that is served now: the old rhythm, or an interval from now if it was missed -/
def nextDeadline (deadline interval now : Nat) : Nat :=
  if deadline + tolerance < now then now + interval else deadline + interval

/-- the flush timer -/
structure Ticker where
  interval : Nat
  deadline : Nat
  /-- whether a deadline was reached since the last flush -/
  due : Bool := false
  /-- resets that the timer has not seen yet -/
  resets : Nat := 0
  /-- whether the timer was told to end -/
  stopping : Bool := false
  running : Bool
deriving DecidableEq, Repr

namespace Ticker

/-- the resets that can wait -/
def maxResets : Nat := 5

/-- a timer started now; one without an interval never runs -/
def start (interval now : Nat) : Ticker :=
  { interval, deadline := now + interval, running := interval ≠ 0 }

/-- asks for a restart of the interval -/
def reset (t : Ticker) : Ticker :=
  if t.running && t.resets < maxResets then { t with resets := t.resets + 1 } else t

/-- lowers the flag -/
def clear (t : Ticker) : Ticker :=
  { t with due := false }

/-- tells the timer to end -/
def stop (t : Ticker) : Ticker :=
  { t with stopping := true }

/-- one move of the timer, `none` while it sleeps -/
def step (t : Ticker) (now : Nat) : Option Ticker :=
  if !t.running then none
  else if t.deadline ≤ now then
    some { t with due := true, deadline := nextDeadline t.deadline t.interval now }
  else if t.resets ≠ 0 then some { t with resets := t.resets - 1, deadline := now + t.interval }
  else if t.stopping then some { t with running := false }
  else none

/-- when the timer wakes up by itself -/
def deadlines (t : Ticker) : List Nat :=
  if t.running then [t.deadline] else []

end Ticker

end ChainFeed
