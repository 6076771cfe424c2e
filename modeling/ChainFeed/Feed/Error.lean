/-
What goes wrong between producers, the hub and its clients, with the wording that clients see.
-/
namespace ChainFeed

/-- why a request, an event or a publication is refused -/
inductive FeedError where
  /-- the text names nothing that can be subscribed to -/
  | invalidSubscription (text : String)
  /-- the subscription lacks a usable filter -/
  | malformedFilter (kind : String)
  | malformedEvent (kind : String)
  | subscriptionLimit (limit : Nat)
  | hubStopped
  /-- the hub took nothing for the length of the publish timeout -/
  | publishTimeout (kind : String)
  /-- the data source answered with an error -/
  | source (text : String)
  /-- a text was not readable -/
  | unreadable (reason : String)
  | channelClosed
deriving DecidableEq, Repr

def FeedError.message : FeedError → String
  | invalidSubscription text => "invalid subscription: " ++ text
  | malformedFilter kind => "malformed filter payload for " ++ kind ++ " subscription"
  | malformedEvent kind => "malformed " ++ kind ++ " event"
  | subscriptionLimit limit =>
    "subscription limit exceeded: max " ++ toString limit ++ " addresses"
  | hubStopped => "websocket hub stopped"
  | publishTimeout kind => "timed out publishing " ++ kind ++ " event"
  | source text => text
  | unreadable reason => "serialization error: " ++ reason
  | channelClosed => "channel closed"

end ChainFeed
