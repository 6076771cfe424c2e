/-
The bounded queue from all producers to the hub.

A producer that finds no room waits in line, for a limited time. Places that become free belong to those
at the head of the line, as many of them as there is room for; each moves its event in when it runs next,
and nobody overtakes. An event whose time ran out is never put in.
-/
import ChainFeed.Feed.Event

namespace ChainFeed

/-- who puts an event into the relay -/
inductive Origin where
  | heartbeat
  /-- the background task with the given number -/
  | producer (id : Nat)
deriving DecidableEq, Repr

/-- an event that waits for room -/
structure Offer where
  origin : Origin
  event : Event
  /-- the time at which waiting ends -/
  deadline : Nat
deriving DecidableEq

/-- what became of an offer -/
inductive Outcome where
  | accepted
  | timedOut
  /-- the hub takes no more events -/
  | refused
deriving DecidableEq, Repr

/-- what a producer is told of an event that it offered -/
def Outcome.result (o : Outcome) (e : Event) : Except FeedError Unit :=
  match o with
  | .accepted => .ok ()
  | .timedOut => .error (.publishTimeout e.kind.name)
  | .refused => .error .hubStopped

/-- the queue of events for the hub -/
structure Relay where
  capacity : Nat
  /-- accepted events, oldest first -/
  queue : List Event := []
  /-- offers in line, at most one of each origin -/
  waiting : List Offer := []
  /-- whether the hub still takes events -/
  receiving : Bool := true
deriving DecidableEq

namespace Relay

/-- an empty relay -/
def create (capacity : Nat) : Except Overflow Relay :=
  (queuePlaces capacity).map fun capacity => { capacity }

/-- the free places -/
def room (r : Relay) : Nat :=
  r.capacity - r.queue.length

/-- the offer that waits for an origin -/
def offer? (r : Relay) (o : Origin) : Option Offer :=
  r.waiting.find? fun w => w.origin = o

/-- whether the waiting offer of an origin has a place -/
def hasPlace (r : Relay) (o : Origin) : Bool :=
  (r.waiting.take r.room).any fun w => w.origin = o

/-- takes the waiting offer of an origin out of the line -/
def withdraw (r : Relay) (o : Origin) : Relay :=
  { r with waiting := r.waiting.filter fun w => w.origin ≠ o }

/-- puts an event in -/
def push (r : Relay) (e : Event) : Relay :=
  { r with queue := r.queue ++ [e] }

/-- One move of an origin that has `event` to put in, and waits for `patience` at most. Without an
outcome it goes on waiting; `none` if nothing changes. -/
def attempt (r : Relay) (o : Origin) (event : Event) (now patience : Nat) :
    Option (Relay × Option Outcome) :=
  if !r.receiving then some (r.withdraw o, some .refused)
  else
    match r.offer? o with
    | none =>
      if r.waiting.length < r.room then some (r.push event, some .accepted)
      else some ({ r with waiting := r.waiting ++ [⟨o, event, now + patience⟩] }, none)
    | some offer =>
      if r.hasPlace o then some ((r.withdraw o).push offer.event, some .accepted)
      else if offer.deadline ≤ now then some (r.withdraw o, some .timedOut)
      else none

/-- puts an event in if there is room at once -/
def tryPush (r : Relay) (event : Event) : Option Relay :=
  if r.receiving && r.waiting.length < r.room then some (r.push event) else none

/-- takes the oldest event out -/
def take? (r : Relay) : Option (Event × Relay) :=
  match r.queue with
  | [] => none
  | e :: rest => some (e, { r with queue := rest })

/-- ends taking events; what is queued is lost -/
def close (r : Relay) : Relay :=
  { r with queue := [], receiving := false }

/-- the times at which waiting ends -/
def deadlines (r : Relay) : List Nat :=
  r.waiting.map (·.deadline)

end Relay

end ChainFeed
