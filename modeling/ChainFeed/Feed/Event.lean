/-
Events on their way from producers to clients.
-/
import ChainFeed.Chain.Mempool
import ChainFeed.Feed.SubscriptionRequest

namespace ChainFeed

/-- an event with its data; most carry none and are filled in when they are pushed -/
inductive Event where
  | newBlock
  | mempool
  | ping
  | newTx (tx : Transaction)
  /-- buffered transactions are to be pushed -/
  | newTxs
  | address (activity : AddressActivity)
  | syncStatus (stages : List SyncStage)
  | subscribe (request : SubscriptionRequest)
  | unsubscribe (request : SubscriptionRequest)
deriving DecidableEq

namespace Event

def kind : Event → EventKind
  | newBlock => .newBlock
  | mempool => .mempool
  | ping => .ping
  | newTx _ => .newTx
  | newTxs => .newTxs
  | address _ => .address
  | syncStatus _ => .syncStatus
  | subscribe _ => .subscribe
  | unsubscribe _ => .unsubscribe

/-- whether the data of the event is well formed -/
def isValid : Event → Bool
  | newTx tx => tx.isValid
  | address activity => activity.isValid && activity.txHash ≠ ""
  | subscribe request | unsubscribe request => request.isValid
  | _ => true

/-- the check of an event, with the error of one that is malformed -/
def validate (e : Event) : Except FeedError Unit :=
  if e.isValid then .ok () else .error (.malformedEvent e.kind.name)

/-- an event as logs show it -/
def label : Event → String
  | newTx tx => "newtx(" ++ tx.hash ++ ")"
  | address activity => "address(" ++ activity.address ++ ", " ++ activity.txHash ++ ")"
  | e => e.kind.name

/-- whether the event asks for a subscription; such an event is not broadcast -/
def isRequest : Event → Bool
  | subscribe _ | unsubscribe _ => true
  | _ => false

end Event

end ChainFeed
