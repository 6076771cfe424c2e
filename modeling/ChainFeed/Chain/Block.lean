/-
Blocks as the ingestion pipeline reports them.
-/
import ChainFeed.Json.Record

namespace ChainFeed

/-- a block without its transactions -/
structure BlockSummary where
  height : Int64 := 0
  hash : String := ""
  /-- seconds since the epoch -/
  time : Int64 := 0
  size : UInt32 := 0
  difficulty : Float := 0.0
  txCount : UInt32 := 0
  votes : UInt16 := 0
  tickets : UInt8 := 0
  revocations : UInt8 := 0
  totalSent : Float := 0.0
  fees : Float := 0.0
deriving DecidableEq

open Json in
def BlockSummary.codec : Codec BlockSummary :=
  record "BlockSummary"
    (.cons (.required "height" int64) <| .cons (.required "hash" string) <|
     .cons (.required "time" int64) <| .cons (.required "size" uint32) <|
     .cons (.required "difficulty" float) <| .cons (.required "tx_count" uint32) <|
     .cons (.required "votes" uint16) <| .cons (.required "tickets" uint8) <|
     .cons (.required "revocations" uint8) <| .cons (.required "total_sent" float) <|
     .cons (.required "fees" float) .nil)
    (fun (height, hash, time, size, difficulty, txs, votes, tickets, revocations, sent, fees, ()) =>
      ⟨height, hash, time, size, difficulty, txs, votes, tickets, revocations, sent, fees⟩)
    (fun b =>
      (b.height, b.hash, b.time, b.size, b.difficulty, b.txCount, b.votes, b.tickets, b.revocations,
        b.totalSent, b.fees, ()))

/-- how the reward of a block is split, in atoms -/
structure Subsidy where
  total : Int64 := 0
  work : Int64 := 0
  stake : Int64 := 0
  development : Int64 := 0
deriving DecidableEq

open Json in
def Subsidy.codec : Codec Subsidy :=
  record "BlockSubsidy"
    (.cons (.required "total" int64) <| .cons (.required "pow" int64) <|
     .cons (.required "pos" int64) <| .cons (.required "dev" int64) .nil)
    (fun (total, work, stake, development, ()) => ⟨total, work, stake, development⟩)
    (fun s => (s.total, s.work, s.stake, s.development, ()))

/-- the pool of live tickets -/
structure TicketPool where
  size : UInt32 := 0
  value : Float := 0.0
  average : Float := 0.0
  /-- the part of the coin supply that is staked, in percent -/
  percentage : Float := 0.0
  /-- the size relative to the target, in percent -/
  percentTarget : Float := 0.0
  target : UInt64 := 0
deriving DecidableEq

open Json in
def TicketPool.codec : Codec TicketPool :=
  record "TicketPoolInfo"
    (.cons (.required "size" uint32) <| .cons (.required "value" float) <|
     .cons (.required "val_avg" float) <| .cons (.required "percentage" float) <|
     .cons (.required "percent_target" float) <| .cons (.required "target" uint64) .nil)
    (fun (size, value, average, percentage, percentTarget, target, ()) =>
      ⟨size, value, average, percentage, percentTarget, target⟩)
    (fun t => (t.size, t.value, t.average, t.percentage, t.percentTarget, t.target, ()))

/-- everything that is reported about a newly connected block -/
structure BlockReport where
  block : BlockSummary := {}
  /-- the coin supply after the block, in atoms -/
  coinSupply : Int64 := 0
  stakeDifficulty : Float := 0.0
  nextStakeDifficulty : Float := 0.0
  windowIndex : UInt64 := 0
  nextSubsidy : Subsidy := {}
  pool : Option TicketPool := none
  /-- the difficulty one day before the block, if known -/
  difficultyDayAgo : Option Float := none
  /-- the difficulty thirty days before the block, if known -/
  difficultyMonthAgo : Option Float := none
  /-- the hash of the coinbase transaction -/
  coinbaseHash : String := ""
  /-- the addresses that the coinbase outputs pay -/
  coinbaseAddresses : List String := []
deriving DecidableEq

open Json in
def BlockReport.codec : Codec BlockReport :=
  record "BlockData"
    (.cons (.defaulting "block" BlockSummary.codec {}) <|
     .cons (.defaulting "coin_supply" int64 0) <|
     .cons (.defaulting "stake_diff" float 0.0) <|
     .cons (.defaulting "next_expected_stake_diff" float 0.0) <|
     .cons (.defaulting "idx_block_in_window" uint64 0) <|
     .cons (.defaulting "next_block_subsidy" Subsidy.codec {}) <|
     .cons (.defaulting "pool_info" (optional TicketPool.codec) none) <|
     .cons (.defaulting "difficulty_day_ago" (optional float) none) <|
     .cons (.defaulting "difficulty_month_ago" (optional float) none) <|
     .cons (.defaulting "coinbase_hash" string "") <|
     .cons (.defaulting "coinbase_addresses" (list string) []) .nil)
    (fun (block, supply, stake, next, index, subsidy, pool, day, month, hash, addresses, ()) =>
      ⟨block, supply, stake, next, index, subsidy, pool, day, month, hash, addresses⟩)
    (fun r =>
      (r.block, r.coinSupply, r.stakeDifficulty, r.nextStakeDifficulty, r.windowIndex, r.nextSubsidy,
        r.pool, r.difficultyDayAgo, r.difficultyMonthAgo, r.coinbaseHash, r.coinbaseAddresses, ()))

end ChainFeed
