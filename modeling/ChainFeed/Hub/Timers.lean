/-
The hub's two timers by themselves, each with a clock: the flush timer, and the heartbeat on a relay whose
other end is used from outside.
-/
import ChainFeed.Hub.Heartbeat
import ChainFeed.Schedule

namespace ChainFeed

/-- the flush timer with a clock -/
structure TimedTicker where
  now : Nat := 0
  ticker : Ticker
deriving DecidableEq, Repr

namespace TimedTicker

/-- a timer started at time zero -/
def start (interval : Nat) : TimedTicker :=
  { ticker := .start interval 0 }

/-- one move of the timer -/
def step (t : TimedTicker) : Option TimedTicker :=
  (t.ticker.step t.now).map fun ticker => { t with ticker }

/-- lets the timer see its resets and its deadline -/
def settle (t : TimedTicker) : TimedTicker :=
  Schedule.settle (fun _ => [step]) (t.ticker.resets + 2) t

def timed : Schedule.Timed TimedTicker where
  now := now
  setNow t now := { t with now }
  settle := settle
  deadlines t := t.ticker.deadlines

/-- lets time pass -/
def advance (t : TimedTicker) (ms : Nat) : TimedTicker :=
  timed.advance ms t

/-- asks for a restart of the interval, some number of times in a row -/
def reset (t : TimedTicker) : Nat → TimedTicker
  | 0 => t
  | times + 1 => { t with ticker := t.ticker.reset }.reset times

/-- lowers the flag -/
def clear (t : TimedTicker) : TimedTicker :=
  { t with ticker := t.ticker.clear }

end TimedTicker

/-- the heartbeat on a relay, with a clock -/
structure TimedHeartbeat where
  now : Nat := 0
  relay : Relay
  heartbeat : Heartbeat
  /-- whether anyone else can still send -/
  held : Bool := true
  shutdown : Bool := false
deriving DecidableEq

namespace TimedHeartbeat

/-- a heartbeat started at time zero -/
def start (capacity interval patience : Nat) : Except Overflow TimedHeartbeat :=
  (Relay.create capacity).map fun relay => { relay, heartbeat := .start interval patience 0 }

/-- one move of the heartbeat -/
def step (h : TimedHeartbeat) : Option TimedHeartbeat :=
  (h.heartbeat.step h.relay h.now h.held h.shutdown).map fun (heartbeat, relay) =>
    { h with heartbeat, relay }

/-- lets the heartbeat do what it can at this time -/
def settle (h : TimedHeartbeat) : TimedHeartbeat :=
  Schedule.settle (fun _ => [step]) 4 h

def timed : Schedule.Timed TimedHeartbeat where
  now := now
  setNow h now := { h with now }
  settle := settle
  deadlines h := h.heartbeat.deadlines ++ h.relay.deadlines

/-- lets time pass -/
def advance (h : TimedHeartbeat) (ms : Nat) : TimedHeartbeat :=
  timed.advance ms h

/-- offers an event without waiting: whether it was taken, `none` if nobody can send -/
def fill (h : TimedHeartbeat) (e : Event) : TimedHeartbeat × Option Bool :=
  if !h.held then (h, none)
  else
    match h.relay.tryPush e with
    | some relay => ({ h with relay }, some true)
    | none => (h, some false)

/-- takes events out, some number of them at most -/
def receive (h : TimedHeartbeat) (most : Nat) : List Event × TimedHeartbeat :=
  (h.relay.queue.take most, { h with relay := { h.relay with queue := h.relay.queue.drop most } })

/-- the receiving end is given up -/
def closeReceiver (h : TimedHeartbeat) : TimedHeartbeat :=
  { h with relay := h.relay.close }

/-- the other senders let go -/
def dropSender (h : TimedHeartbeat) : TimedHeartbeat :=
  { h with held := false }

/-- tells the heartbeat to end -/
def cancel (h : TimedHeartbeat) : TimedHeartbeat :=
  { h with shutdown := true }

end TimedHeartbeat

end ChainFeed
