/-
The chain overview that goes with every new block: figures taken from the block's report, and figures
worked out from it and the parameters of the network.

`Overview.fresh` is the overview before the first block; `Overview.apply` refreshes every figure but
the constant ones.
-/
import ChainFeed.Chain.Block
import ChainFeed.Chain.Params

namespace ChainFeed

/-- the constant figures of the overview -/
structure OverviewParams where
  windowSize : UInt64 := 0
  rewardWindowSize : UInt64 := 0
  blockTime : UInt64 := 0
  meanVotingBlocks : Int64 := 0
deriving DecidableEq

open Json in
def OverviewParams.codec : Codec OverviewParams :=
  record "HomeParams"
    (.cons (.required "window_size" uint64) <| .cons (.required "reward_window_size" uint64) <|
     .cons (.required "block_time_secs" uint64) <| .cons (.required "mean_voting_blocks" int64) .nil)
    (fun (window, reward, time, mean, ()) => ⟨window, reward, time, mean⟩)
    (fun p => (p.windowSize, p.rewardWindowSize, p.blockTime, p.meanVotingBlocks, ()))

/-- the figures shown about the chain -/
structure Overview where
  coinSupply : Int64 := 0
  stakeDifficulty : Float := 0.0
  nextStakeDifficulty : Float := 0.0
  difficulty : Float := 0.0
  /-- TH/s -/
  hashRate : Float := 0.0
  /-- the change of the hash rate in a day, in percent -/
  hashRateChangeDay : Float := 0.0
  /-- the change of the hash rate in thirty days, in percent -/
  hashRateChangeMonth : Float := 0.0
  windowIndex : UInt64 := 0
  rewardWindowIndex : UInt64 := 0
  pool : TicketPool := {}
  nextSubsidy : Subsidy := {}
  /-- what one vote returns relative to the ticket price, in percent -/
  ticketReward : Float := 0.0
  /-- the time from the purchase of a ticket until its reward can be spent -/
  rewardPeriod : String := ""
  params : OverviewParams := {}
deriving DecidableEq

open Json in
def Overview.codec : Codec Overview :=
  record "HomeInfo"
    (.cons (.required "coin_supply" int64) <| .cons (.required "stake_diff" float) <|
     .cons (.required "next_expected_stake_diff" float) <| .cons (.required "difficulty" float) <|
     .cons (.required "hash_rate" float) <| .cons (.required "hash_rate_change_day" float) <|
     .cons (.required "hash_rate_change_month" float) <|
     .cons (.required "idx_block_in_window" uint64) <|
     .cons (.required "idx_in_reward_window" uint64) <|
     .cons (.required "pool_info" TicketPool.codec) <|
     .cons (.required "next_block_subsidy" Subsidy.codec) <|
     .cons (.required "ticket_reward" float) <| .cons (.required "reward_period" string) <|
     .cons (.required "params" OverviewParams.codec) .nil)
    (fun (supply, stake, next, difficulty, rate, day, month, window, reward, pool, subsidy, ticket,
        period, params, ()) =>
      ⟨supply, stake, next, difficulty, rate, day, month, window, reward, pool, subsidy, ticket, period,
        params⟩)
    (fun o =>
      (o.coinSupply, o.stakeDifficulty, o.nextStakeDifficulty, o.difficulty, o.hashRate,
        o.hashRateChangeDay, o.hashRateChangeMonth, o.windowIndex, o.rewardWindowIndex, o.pool,
        o.nextSubsidy, o.ticketReward, o.rewardPeriod, o.params, ()))

/-- atoms in a coin -/
def atomsPerCoin : Float := 100000000.0

namespace Overview

/-- the overview before the first block -/
def fresh (p : ChainParams) : Except Overflow Overview := do
  let mean ← p.meanVotingBlocks
  let target ← p.ticketPoolTarget
  return {
    params := ⟨p.stakeWindow, p.rewardWindow, p.blockTime, mean⟩
    pool := { target } }

/-- the change of the hash rate since a past difficulty, in percent; zero if that is not known -/
def rateChange (current : Float) (pastDifficulty : Option Float) (blockTime : UInt64) : Float :=
  match pastDifficulty with
  | some difficulty =>
    if 0.0 < difficulty then
      let past := ChainFeed.hashRate difficulty blockTime
      100.0 * (current - past) / past
    else 0.0
  | none => 0.0

/-- the ticket pool as shown, from the reported one -/
def shownPool (supplyAtoms : Int64) (target : UInt64) (pool : TicketPool) : TicketPool :=
  let supply := floatOfInt64 supplyAtoms / atomsPerCoin
  let staked := if 0.0 < supply then pool.value / supply else 0.0
  { size := pool.size
    value := pool.value
    average := pool.average
    percentage := staked * 100.0
    percentTarget :=
      if target = 0 then 0.0 else 100.0 * pool.size.toFloat / floatOfUInt64 target
    target }

/-- what one vote returns relative to the ticket price, in percent -/
def voteReturn (stakeDifficulty : Float) (subsidy : Subsidy) (ticketsPerBlock : UInt64) : Float :=
  if 0.0 < stakeDifficulty ∧ 0 < ticketsPerBlock then
    let perVote := floatOfInt64 subsidy.stake / atomsPerCoin / floatOfUInt64 ticketsPerBlock
    100.0 * perVote / stakeDifficulty
  else 0.0

/-- the position of a height in windows of the given length -/
def positionInWindow (height : Int64) (window : UInt64) : UInt64 :=
  if window = 0 then 0 else UInt64.ofNat height.toInt.toNat % window

/-- the blocks from the purchase of a ticket to its vote and on until its reward can be spent -/
def maturityBlocks (meanVotingBlocks : Int64) (p : ChainParams) : Except Overflow Int64 := do
  addInt64 (← addInt64 meanVotingBlocks p.ticketMaturity.toInt64) p.coinbaseMaturity.toInt64

/-- the overview after a block -/
def apply (o : Overview) (r : BlockReport) (p : ChainParams) : Except Overflow Overview := do
  let rate := ChainFeed.hashRate r.block.difficulty p.blockTime
  let target ← p.ticketPoolTarget
  let blocks ← maturityBlocks o.params.meanVotingBlocks p
  let days := floatOfInt64 blocks * floatOfUInt64 p.blockTime / 86400.0
  return { o with
    hashRate := rate
    hashRateChangeDay := rateChange rate r.difficultyDayAgo p.blockTime
    hashRateChangeMonth := rateChange rate r.difficultyMonthAgo p.blockTime
    difficulty := r.block.difficulty
    coinSupply := r.coinSupply
    stakeDifficulty := r.stakeDifficulty
    nextStakeDifficulty := r.nextStakeDifficulty
    windowIndex := r.windowIndex
    rewardWindowIndex := positionInWindow r.block.height p.rewardWindow
    nextSubsidy := r.nextSubsidy
    pool := (r.pool.map (shownPool r.coinSupply target)).getD {}
    ticketReward := voteReturn r.stakeDifficulty r.nextSubsidy p.ticketsPerBlock
    rewardPeriod := twoPlaces days ++ " days" }

end Overview

/-- what is pushed about a new block: the block and the overview refreshed by it -/
structure LatestBlock where
  block : BlockSummary
  overview : Overview
deriving DecidableEq

open Json in
def LatestBlock.codec : Codec LatestBlock :=
  record "WebsocketBlock"
    (.cons (.required "block" BlockSummary.codec) <| .cons (.required "extra" Overview.codec) .nil)
    (fun (block, overview, ()) => ⟨block, overview⟩)
    (fun l => (l.block, l.overview, ()))

end ChainFeed
