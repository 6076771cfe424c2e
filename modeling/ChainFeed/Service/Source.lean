/-
Where requests and pushes take chain data from.
-/
import ChainFeed.Chain.Mempool
import ChainFeed.Chain.Params
import ChainFeed.Feed.Error
import ChainFeed.Json.Value

namespace ChainFeed

/-- a source of chain data; transactions are given as hexadecimal text -/
structure Source where
  params : ChainParams := .mainnet
  /-- the inventory of the mempool, once there is one -/
  mempool : Option Mempool := none
  /-- a raw transaction in readable form -/
  decode : String → Except FeedError Json.Value
  /-- broadcasts a raw transaction: its hash -/
  send : String → Except FeedError String
  /-- whether the transactions of an inventory are counted when it comes in -/
  counting : Bool := false

/-- replaces the inventory of the mempool -/
def Source.setMempool (s : Source) (mempool : Option Mempool) : Except Overflow Source :=
  let counted : Except Overflow Unit :=
    match mempool with
    | some m => if s.counting then m.count.map fun _ => () else .ok ()
    | none => .ok ()
  counted.map fun _ => { s with mempool }

end ChainFeed
