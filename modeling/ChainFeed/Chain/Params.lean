/-
Parameters of a network, and the figures that follow from them alone.

`ticketPoolTarget` is the only figure whose arithmetic can leave its range.
-/
import ChainFeed.Json.Record
import ChainFeed.Number.Checked
import ChainFeed.Number.Power

namespace ChainFeed

/-- the parameters of a network; the defaults are those of the main network -/
structure ChainParams where
  name : String := "mainnet"
  /-- seconds between blocks that the network aims at -/
  blockTime : UInt64 := 300
  ticketPoolSize : UInt64 := 8192
  ticketsPerBlock : UInt64 := 5
  ticketMaturity : UInt64 := 256
  ticketExpiry : UInt64 := 40960
  coinbaseMaturity : UInt64 := 256
  /-- blocks between changes of the stake difficulty -/
  stakeWindow : UInt64 := 144
  /-- blocks between reductions of the subsidy -/
  rewardWindow : UInt64 := 6144
deriving DecidableEq

namespace ChainParams

/-- the main network -/
def mainnet : ChainParams := {}

/-- the simulation network -/
def simnet : ChainParams where
  name := "simnet"
  blockTime := 1
  ticketPoolSize := 64
  ticketsPerBlock := 5
  ticketMaturity := 16
  ticketExpiry := 384
  coinbaseMaturity := 16
  stakeWindow := 8
  rewardWindow := 128

open Json in
def codec : Codec ChainParams :=
  record "ChainParams"
    (.cons (.defaulting "name" string mainnet.name) <|
     .cons (.defaulting "target_time_per_block_secs" uint64 mainnet.blockTime) <|
     .cons (.defaulting "ticket_pool_size" uint64 mainnet.ticketPoolSize) <|
     .cons (.defaulting "tickets_per_block" uint64 mainnet.ticketsPerBlock) <|
     .cons (.defaulting "ticket_maturity" uint64 mainnet.ticketMaturity) <|
     .cons (.defaulting "ticket_expiry" uint64 mainnet.ticketExpiry) <|
     .cons (.defaulting "coinbase_maturity" uint64 mainnet.coinbaseMaturity) <|
     .cons (.defaulting "stake_diff_window_size" uint64 mainnet.stakeWindow) <|
     .cons (.defaulting "subsidy_reduction_interval" uint64 mainnet.rewardWindow) .nil)
    (fun (name, time, pool, perBlock, maturity, expiry, coinbase, window, reward, ()) =>
      ⟨name, time, pool, perBlock, maturity, expiry, coinbase, window, reward⟩)
    (fun p =>
      (p.name, p.blockTime, p.ticketPoolSize, p.ticketsPerBlock, p.ticketMaturity, p.ticketExpiry,
        p.coinbaseMaturity, p.stakeWindow, p.rewardWindow, ()))

/-- the number of live tickets that the network aims at -/
def ticketPoolTarget (p : ChainParams) : Except Overflow UInt64 :=
  mulUInt64 p.ticketPoolSize p.ticketsPerBlock

/-- the number of blocks that a mature ticket waits on average before it votes: each block draws its
votes from the target pool, so the wait is geometric, cut off at the expiry -/
def meanVotingBlocks (p : ChainParams) : Except Overflow Int64 := do
  let target ← p.ticketPoolTarget
  if target = 0 ∨ p.ticketsPerBlock = 0 then return 0
  let chance := floatOfUInt64 p.ticketsPerBlock / floatOfUInt64 target
  let expiry := (Binary64.ofFloat (floatOfUInt64 p.ticketExpiry)).rounded.getD 0
  let survival := unitPower (1.0 - chance) expiry.toNat
  return roundToInt64 ((1.0 - survival) / chance)

end ChainParams

/-- the hash rate in TH/s that a difficulty and a block interval in seconds imply -/
def hashRate (difficulty : Float) (blockTime : UInt64) : Float :=
  if blockTime = 0 then 0.0
  else difficulty * 4294967296.0 / floatOfUInt64 blockTime / 1000000000000.0

end ChainFeed
