/-
Bounded queues between the hub and one client.

The hub offers without waiting: an offer to a full queue, or to one whose receiver has closed it, is
refused. The receiver takes what was offered in order, and sees the end once either end is closed and the
queue is empty (`isFinished`).
-/
import ChainFeed.Number.Checked

namespace ChainFeed

/-- a bounded queue with a sending and a receiving end -/
structure Channel (α : Type) where
  capacity : Nat
  /-- oldest first -/
  queue : List α := []
  /-- whether the sending end is held -/
  sending : Bool := true
  /-- whether the receiver still lets events in -/
  receiving : Bool := true
deriving DecidableEq

namespace Channel

/-- an empty queue; a capacity of zero counts as one -/
def create (capacity : Nat) : Except Overflow (Channel α) :=
  (queuePlaces (max capacity 1)).map fun capacity => { capacity }

/-- puts an element in if it is taken now -/
def offer? (c : Channel α) (a : α) : Option (Channel α) :=
  if c.receiving && c.queue.length < c.capacity then some { c with queue := c.queue ++ [a] } else none

/-- takes the oldest element out -/
def take? (c : Channel α) : Option (α × Channel α) :=
  match c.queue with
  | [] => none
  | a :: rest => some (a, { c with queue := rest })

/-- gives up the sending end -/
def endSending (c : Channel α) : Channel α :=
  { c with sending := false }

/-- lets nothing more in; what is queued can still be taken -/
def endReceiving (c : Channel α) : Channel α :=
  { c with receiving := false }

/-- whether nothing will come any more -/
def isFinished (c : Channel α) : Bool :=
  !(c.sending && c.receiving) && c.queue.isEmpty

theorem offer?_eq_some_iff {c d : Channel α} {a : α} :
    c.offer? a = some d ↔
      c.receiving = true ∧ c.queue.length < c.capacity ∧ d = { c with queue := c.queue ++ [a] } := by
  simp only [offer?, Bool.and_eq_true, decide_eq_true_eq, Option.ite_none_right_eq_some,
    Option.some.injEq, and_assoc, eq_comm (b := d)]

end Channel

end ChainFeed
