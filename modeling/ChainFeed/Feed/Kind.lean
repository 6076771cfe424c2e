/-
The kinds of events, with their names on the wire.

`ofName?_name`: a name leads back to its kind.
-/
import ChainFeed.Json.Codec

namespace ChainFeed

/-- the kinds of events -/
inductive EventKind where
  | subscribe
  | unsubscribe
  | newBlock
  | mempool
  | ping
  | newTx
  | newTxs
  | address
  | syncStatus
deriving DecidableEq, Repr

namespace EventKind

def all : List EventKind :=
  [subscribe, unsubscribe, newBlock, mempool, ping, newTx, newTxs, address, syncStatus]

def name : EventKind → String
  | subscribe => "subscribe"
  | unsubscribe => "unsubscribe"
  | newBlock => "newblock"
  | mempool => "mempool"
  | ping => "ping"
  | newTx => "newtx"
  | newTxs => "newtxs"
  | address => "address"
  | syncStatus => "syncstatus"

/-- the kind with the given name -/
def ofName? (s : String) : Option EventKind :=
  all.find? fun k => k.name = s

/-- whether clients can subscribe to the kind -/
def isSubscribable : EventKind → Bool
  | subscribe | unsubscribe | newTx => false
  | _ => true

/-- whether a subscription to the kind names what it is about -/
def requiresFilter (k : EventKind) : Bool :=
  k = address

def codec : Json.Codec EventKind :=
  Json.variant (all.map fun k => (k.name, k)) name

theorem ofName?_name (k : EventKind) : ofName? k.name = some k := by
  cases k <;> decide

end EventKind

end ChainFeed
