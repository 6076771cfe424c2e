/-
Transactions that wait to be mined, and the inventory of all of them.

The inventory lists the transactions from the newest to the oldest, equal times in the order in which
they came, with their counts by kind and their sums.
-/
import ChainFeed.Chain.Block
import ChainFeed.Number.Checked

namespace ChainFeed

/-- the kinds of transactions -/
inductive TxKind where
  | regular
  | ticket
  | vote
  | revocation
deriving DecidableEq, Repr

namespace TxKind

def name : TxKind → String
  | regular => "regular"
  | ticket => "ticket"
  | vote => "vote"
  | revocation => "revocation"

def all : List TxKind := [regular, ticket, vote, revocation]

def codec : Json.Codec TxKind :=
  Json.variant (all.map fun k => (k.name, k)) name

end TxKind

/-- a transaction that waits to be mined -/
structure Transaction where
  hash : String := ""
  /-- seconds since the epoch -/
  time : Int64 := 0
  size : UInt32 := 0
  kind : TxKind := .regular
  totalOut : Float := 0.0
  fees : Float := 0.0
  feeRate : Float := 0.0
  inputs : UInt32 := 0
  outputs : UInt32 := 0
  /-- the height of the block that a vote is about -/
  voteHeight : Option Int64 := none
deriving DecidableEq

namespace Transaction

open Json in
def codec : Codec Transaction :=
  record "MempoolTx"
    (.cons (.defaulting "hash" string "") <| .cons (.defaulting "time" int64 0) <|
     .cons (.defaulting "size" uint32 0) <| .cons (.defaulting "type" TxKind.codec .regular) <|
     .cons (.defaulting "total_out" float 0.0) <| .cons (.defaulting "fees" float 0.0) <|
     .cons (.defaulting "fee_rate" float 0.0) <| .cons (.defaulting "vin_count" uint32 0) <|
     .cons (.defaulting "vout_count" uint32 0) <| .cons (.omitting "vote_height" int64) .nil)
    (fun (hash, time, size, kind, out, fees, rate, inputs, outputs, vote, ()) =>
      ⟨hash, time, size, kind, out, fees, rate, inputs, outputs, vote⟩)
    (fun t =>
      (t.hash, t.time, t.size, t.kind, t.totalOut, t.fees, t.feeRate, t.inputs, t.outputs,
        t.voteHeight, ()))

/-- whether the transaction can be announced -/
def isValid (t : Transaction) : Bool :=
  t.hash ≠ ""

end Transaction

/-- the text of a list of transactions -/
def transactionsText (txs : List Transaction) : String :=
  (Json.list Transaction.codec).text txs

/-- an inventory of the waiting transactions -/
structure Mempool where
  lastBlockHeight : Int64 := 0
  lastBlockTime : Int64 := 0
  /-- the time of the newest transaction -/
  time : Int64 := 0
  totalSize : UInt64 := 0
  regular : UInt32 := 0
  tickets : UInt32 := 0
  votes : UInt32 := 0
  revocations : UInt32 := 0
  totalOut : Float := 0.0
  /-- the transactions, newest first -/
  latest : List Transaction := []
  /-- the reward of the next block -/
  subsidy : Option Subsidy := none
deriving DecidableEq

namespace Mempool

open Json in
def codec : Codec Mempool :=
  record "MempoolSummary"
    (.cons (.defaulting "last_block_height" int64 0) <|
     .cons (.defaulting "last_block_time" int64 0) <|
     .cons (.defaulting "time" int64 0) <| .cons (.defaulting "total_size" uint64 0) <|
     .cons (.defaulting "num_regular" uint32 0) <| .cons (.defaulting "num_tickets" uint32 0) <|
     .cons (.defaulting "num_votes" uint32 0) <| .cons (.defaulting "num_revocations" uint32 0) <|
     .cons (.defaulting "total_out" float 0.0) <|
     .cons (.defaulting "latest" (list Transaction.codec) []) <|
     .cons (.omitting "subsidy" Subsidy.codec) .nil)
    (fun (height, blockTime, time, size, regular, tickets, votes, revocations, out, latest, subsidy,
        ()) =>
      ⟨height, blockTime, time, size, regular, tickets, votes, revocations, out, latest, subsidy⟩)
    (fun m =>
      (m.lastBlockHeight, m.lastBlockTime, m.time, m.totalSize, m.regular, m.tickets, m.votes,
        m.revocations, m.totalOut, m.latest, m.subsidy, ()))

/-- adds a transaction to the counts and sums -/
def tally (m : Mempool) (t : Transaction) : Except Overflow Mempool := do
  let m := { m with totalSize := ← addUInt64 m.totalSize t.size.toUInt64 }
  let m ←
    match t.kind with
    | .regular => do pure { m with regular := ← addUInt32 m.regular 1 }
    | .ticket => do pure { m with tickets := ← addUInt32 m.tickets 1 }
    | .vote => do pure { m with votes := ← addUInt32 m.votes 1 }
    | .revocation => do pure { m with revocations := ← addUInt32 m.revocations 1 }
  return { m with totalOut := m.totalOut + t.totalOut }

/-- transactions from the newest to the oldest, equal times in their given order -/
def newestFirst (txs : List Transaction) : List Transaction :=
  txs.mergeSort fun a b => b.time ≤ a.time

/-- the inventory of the given transactions on top of the given block -/
def ofTransactions (height blockTime : Int64) (txs : List Transaction) :
    Except Overflow Mempool :=
  let latest := newestFirst txs
  let time := (latest.head?.map Transaction.time).getD blockTime
  latest.foldlM tally { lastBlockHeight := height, lastBlockTime := blockTime, time, latest }

/-- the number of transactions, from the counts -/
def count (m : Mempool) : Except Overflow UInt32 := do
  addUInt32 (← addUInt32 (← addUInt32 m.regular m.tickets) m.votes) m.revocations

/-- the inventory with the newest `n` transactions only; counts and sums stay -/
def short (m : Mempool) (n : Nat) : Mempool :=
  { m with latest := m.latest.take n }

/-- how many transactions a push of the inventory lists -/
def pushedLatest : Nat := 5

end Mempool

end ChainFeed
