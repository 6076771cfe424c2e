/-
What a client asks to be told about: a kind of event, or one address.

The text of a request is the name of its kind, or `address:` and the address.
-/
import ChainFeed.Chain.Activity
import ChainFeed.Feed.Error
import ChainFeed.Feed.Kind

namespace ChainFeed

/-- a kind of event, with the address that it is about where the kind asks for one -/
structure SubscriptionRequest where
  kind : EventKind
  filter : Option String
deriving DecidableEq, Repr

namespace SubscriptionRequest

/-- the start of a request for an address -/
def addressPrefix : List Char :=
  "address:".toList

/-- a request for a kind as a whole -/
def ofKind (kind : EventKind) : SubscriptionRequest :=
  ⟨kind, none⟩

/-- a request for one address -/
def ofAddress (address : String) : SubscriptionRequest :=
  ⟨.address, some address⟩

/-- whether the kind can be subscribed to and the filter is there if the kind asks for one -/
def isValid (r : SubscriptionRequest) : Bool :=
  r.kind.isSubscribable && (!r.kind.requiresFilter || r.filter.any isAddress)

/-- the text of a request -/
def text (r : SubscriptionRequest) : String :=
  match r.filter with
  | some address => String.ofList (addressPrefix ++ address.toList)
  | none => r.kind.name

/-- reads a request -/
def parse (s : String) : Except FeedError SubscriptionRequest :=
  if addressPrefix.isPrefixOf s.toList then
    let request := ofAddress (String.ofList (s.toList.drop addressPrefix.length))
    if request.isValid then .ok request else .error (.malformedFilter EventKind.address.name)
  else
    match (EventKind.ofName? s).filter EventKind.isSubscribable with
    | none => .error (.invalidSubscription s)
    | some kind =>
      if kind.requiresFilter then .error (.malformedFilter kind.name) else .ok (ofKind kind)

end SubscriptionRequest

end ChainFeed
