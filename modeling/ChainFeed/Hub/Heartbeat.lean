/-
The timer that puts a ping into the relay at every beat.

A beat waits for room for a limited time and is skipped after that. The timer keeps the relay open only
while it waits: it ends at a beat at which nobody else could send, and when the relay or the hub closes.
-/
import ChainFeed.Hub.Relay
import ChainFeed.Hub.Ticker

namespace ChainFeed

/-- the heartbeat -/
structure Heartbeat where
  interval : Nat
  /-- how long a beat waits for room -/
  patience : Nat
  deadline : Nat
  /-- whether a beat waits in the relay -/
  waiting : Bool := false
  running : Bool
deriving DecidableEq, Repr

namespace Heartbeat

/-- the least interval after which no time can be told for the first beat -/
def maxInterval : Nat := 9223372036854775807000

/-- a heartbeat started now; one without an interval, or with too long a one, never runs -/
def start (interval patience now : Nat) : Heartbeat :=
  { interval, patience, deadline := now + interval
    running := interval ≠ 0 && interval < maxInterval }

/-- offers a ping, or goes on offering it -/
def beat (h : Heartbeat) (r : Relay) (now : Nat) : Option (Heartbeat × Relay) :=
  match r.attempt .heartbeat .ping now h.patience with
  | none => none
  | some (r, none) => some ({ h with waiting := true }, r)
  | some (r, some .refused) => some ({ h with waiting := false, running := false }, r)
  | some (r, some _) => some ({ h with waiting := false }, r)

/-- One move of the heartbeat, `none` while it sleeps. `held` tells whether anyone else can still send. -/
def step (h : Heartbeat) (r : Relay) (now : Nat) (held shutdown : Bool) :
    Option (Heartbeat × Relay) :=
  if !h.running then none
  else if shutdown then some ({ h with waiting := false, running := false }, r.withdraw .heartbeat)
  else if h.waiting then h.beat r now
  else if h.deadline ≤ now then
    let h := { h with deadline := nextDeadline h.deadline h.interval now }
    if held then h.beat r now else some ({ h with running := false }, r)
  else none

/-- when the heartbeat wakes up by itself to beat -/
def deadlines (h : Heartbeat) : List Nat :=
  if h.running && !h.waiting then [h.deadline] else []

end Heartbeat

end ChainFeed
