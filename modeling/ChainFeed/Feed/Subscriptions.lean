/-
What one client is subscribed to.

Two sets are kept: the kinds, and the watched addresses. The kind `address` belongs to the kinds while
at least one address is watched. Refused calls change nothing.
-/
import ChainFeed.Feed.Event

namespace ChainFeed

/-- the subscriptions of a client -/
structure Subscriptions where
  kinds : List EventKind := []
  addresses : List String := []
deriving DecidableEq, Repr

namespace Subscriptions

/-- the most addresses that one client can watch -/
def addressLimit : Nat := 100

/-- the address that a filter names, if it can be one -/
def filterAddress (kind : EventKind) (filter : Option String) : Except FeedError String :=
  match filter with
  | some address => if isAddress address then .ok address else .error (.malformedFilter kind.name)
  | none => .error (.malformedFilter kind.name)

/-- adds an element to a set kept as a list -/
def insertNew [DecidableEq α] (a : α) (as : List α) : List α :=
  if a ∈ as then as else as ++ [a]

/-- adds a subscription: the subscriptions after it, and whether that is news -/
def subscribe (s : Subscriptions) (r : SubscriptionRequest) :
    Except FeedError (Subscriptions × Bool) :=
  if !r.kind.isSubscribable then .error (.invalidSubscription r.kind.name)
  else if !r.kind.requiresFilter then
    .ok ({ s with kinds := insertNew r.kind s.kinds }, !s.kinds.contains r.kind)
  else
    match filterAddress r.kind r.filter with
    | .error e => .error e
    | .ok address =>
      if address ∈ s.addresses then .ok (s, false)
      else if addressLimit ≤ s.addresses.length then .error (.subscriptionLimit addressLimit)
      else .ok (⟨insertNew r.kind s.kinds, s.addresses ++ [address]⟩, true)

/-- takes a subscription away: the subscriptions after it, and whether it was there -/
def unsubscribe (s : Subscriptions) (r : SubscriptionRequest) :
    Except FeedError (Subscriptions × Bool) :=
  if !r.kind.requiresFilter then
    .ok ({ s with kinds := s.kinds.erase r.kind }, s.kinds.contains r.kind)
  else
    match filterAddress r.kind r.filter with
    | .error e => .error e
    | .ok address =>
      let addresses := s.addresses.erase address
      let kinds := if addresses.isEmpty then s.kinds.erase r.kind else s.kinds
      .ok (⟨kinds, addresses⟩, s.addresses.contains address)

/-- takes all subscriptions away -/
def unsubscribeAll (s : Subscriptions) : Subscriptions :=
  { s with kinds := [], addresses := [] }

@[simp] theorem unsubscribeAll_eq (s : Subscriptions) : s.unsubscribeAll = {} := rfl

/-- whether the kind is among the subscribed ones -/
def hasKind (s : Subscriptions) (k : EventKind) : Bool :=
  s.kinds.contains k

/-- whether an event is to be delivered -/
def isSubscribed (s : Subscriptions) (e : Event) : Bool :=
  s.hasKind e.kind &&
    match e with
    | .address activity => activity.isValid && s.addresses.contains activity.address
    | _ => true

/-- the number of subscriptions, each watched address being one -/
def count (s : Subscriptions) : Nat :=
  (s.kinds.filter fun k => !k.requiresFilter).length + s.addresses.length

end Subscriptions

end ChainFeed
