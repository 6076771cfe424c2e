/-
Activity on addresses, and the progress of the first synchronisation.
-/
import ChainFeed.Json.Record
import ChainFeed.Text.Blank
import ChainFeed.Number.Binary64

namespace ChainFeed

/-- whether a text can stand for an address: it is not empty and holds nothing blank -/
def isAddress (s : String) : Bool :=
  s ≠ "" && !s.toList.any isBlank

/-- a transaction that touches an address -/
structure AddressActivity where
  address : String
  txHash : String
deriving DecidableEq

namespace AddressActivity

open Json in
def codec : Codec AddressActivity :=
  record "AddressMessage"
    (.cons (.required "address" string) <| .cons (.required "txHash" string) .nil)
    (fun (address, txHash, ()) => ⟨address, txHash⟩)
    (fun a => (a.address, a.txHash, ()))

/-- whether the address can be watched -/
def isValid (a : AddressActivity) : Bool :=
  isAddress a.address

end AddressActivity

/-- one stage of the synchronisation -/
structure SyncStage where
  status : String
  height : UInt64
  target : UInt64
  percentComplete : Float
deriving DecidableEq

namespace SyncStage

open Json in
def codec : Codec SyncStage :=
  record "SyncProgress"
    (.cons (.required "status" string) <| .cons (.required "height" uint64) <|
     .cons (.required "target" uint64) <| .cons (.required "percent_complete" float) .nil)
    (fun (status, height, target, percent, ()) => ⟨status, height, target, percent⟩)
    (fun s => (s.status, s.height, s.target, s.percentComplete, ()))

/-- a stage with its percentage worked out; a stage without a target is complete -/
def ofHeights (status : String) (height target : UInt64) : SyncStage :=
  let percent :=
    if target = 0 then 100.0
    else floatOfUInt64 (min height target) / floatOfUInt64 target * 100.0
  ⟨status, height, target, percent⟩

end SyncStage

/-- a report of the synchronisation: its stages, and whether the explorer is ready -/
structure SyncReport where
  stages : List SyncStage
  ready : Bool
deriving DecidableEq

open Json in
def SyncReport.codec : Codec SyncReport :=
  record "SyncReport"
    (.cons (.defaulting "stages" (list SyncStage.codec) []) <|
     .cons (.defaulting "ready" bool false) .nil)
    (fun (stages, ready, ()) => ⟨stages, ready⟩)
    (fun r => (r.stages, r.ready, ()))

end ChainFeed
