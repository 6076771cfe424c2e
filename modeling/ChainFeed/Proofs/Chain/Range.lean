/-
Which parameters keep the arithmetic of blocks in range.

Three results can leave their ranges: the target of the ticket pool, and the two sums that lead to the time until a
reward can be spent. None of them depends on a block.
- `fresh_ok_iff`, `apply_ok_iff`: when the overview can be made, and when it can be refreshed.
- `stored`: in range, a publisher stores any blocks, and tells of the last one.
- `stored_iff`: out of range, either no publisher can be made or no block can be stored.
- `validate_overlooks_range`: the check of the settings does not ask for it.
-/
import ChainFeed.Proofs.World.Publisher
import ChainFeed.Node.Server

namespace ChainFeed

/-! ## Checked arithmetic -/

theorem mulUInt64_ok_iff {a b : UInt64} : (∃ c, mulUInt64 a b = .ok c) ↔ a.toNat * b.toNat < UInt64.size := by
  unfold mulUInt64
  split_ifs with h <;> simp [h]

theorem addInt64_ok_iff {a b : Int64} : (∃ c, addInt64 a b = .ok c) ↔ fitsInt64 (a.toInt + b.toInt) = true := by
  unfold addInt64
  split_ifs with h <;> simp [h]

theorem toInt_addInt64 {a b c : Int64} (h : addInt64 a b = .ok c) : c.toInt = a.toInt + b.toInt := by
  unfold addInt64 at h
  split_ifs at h with hfits
  cases h
  simp only [fitsInt64, Bool.and_eq_true, decide_eq_true_eq] at hfits
  have hmin : Int64.minValue.toInt = -2 ^ 63 := rfl
  have hmax : Int64.maxValue.toInt = 2 ^ 63 - 1 := rfl
  rw [Int64.toInt_add, Int.bmod_eq_of_le] <;> omega

/-! ## The overview -/

/-- the blocks from the purchase of a ticket until its reward can be spent, as a whole number; the intermediate sum
comes first -/
def ChainParams.maturitySums (p : ChainParams) (mean : Int64) : Int × Int :=
  (mean.toInt + p.ticketMaturity.toInt64.toInt,
    mean.toInt + p.ticketMaturity.toInt64.toInt + p.coinbaseMaturity.toInt64.toInt)

/-- the target of the ticket pool and the maturity of tickets stay in their ranges -/
structure ChainParams.InRange (p : ChainParams) : Prop where
  target : p.ticketPoolSize.toNat * p.ticketsPerBlock.toNat < UInt64.size
  maturity : ∀ mean, p.meanVotingBlocks = .ok mean →
    fitsInt64 (p.maturitySums mean).1 = true ∧ fitsInt64 (p.maturitySums mean).2 = true

namespace Overview

variable {p : ChainParams}

theorem maturityBlocks_ok_iff {mean : Int64} :
    (∃ blocks, maturityBlocks mean p = .ok blocks) ↔
      fitsInt64 (p.maturitySums mean).1 = true ∧ fitsInt64 (p.maturitySums mean).2 = true := by
  unfold maturityBlocks ChainParams.maturitySums
  cases hs : addInt64 mean p.ticketMaturity.toInt64 with
  | error e =>
    have hno : ¬fitsInt64 (mean.toInt + p.ticketMaturity.toInt64.toInt) = true := fun hfits => by
      obtain ⟨c, hc⟩ := addInt64_ok_iff.2 hfits
      rw [hs] at hc
      cases hc
    simp [bind, Except.bind, hno]
  | ok sum =>
    have hyes : fitsInt64 (mean.toInt + p.ticketMaturity.toInt64.toInt) = true := addInt64_ok_iff.1 ⟨sum, hs⟩
    have hsum := toInt_addInt64 hs
    simp only [bind, Except.bind, hyes, true_and]
    rw [addInt64_ok_iff, hsum]

theorem ticketPoolTarget_ok_iff :
    (∃ target, p.ticketPoolTarget = .ok target) ↔ p.ticketPoolSize.toNat * p.ticketsPerBlock.toNat < UInt64.size :=
  mulUInt64_ok_iff

/-- the mean needs nothing but the target of the pool -/
theorem meanVotingBlocks_of_target {target : UInt64} (h : p.ticketPoolTarget = .ok target) :
    ∃ mean, p.meanVotingBlocks = .ok mean := by
  unfold ChainParams.meanVotingBlocks
  rw [h]
  simp only [bind, Except.bind, pure, Except.pure]
  split_ifs
  · exact ⟨_, rfl⟩
  · exact ⟨_, rfl⟩

theorem target_of_meanVotingBlocks {mean : Int64} (h : p.meanVotingBlocks = .ok mean) :
    ∃ target, p.ticketPoolTarget = .ok target := by
  unfold ChainParams.meanVotingBlocks at h
  cases ht : p.ticketPoolTarget with
  | ok target => exact ⟨target, rfl⟩
  | error e =>
    rw [ht] at h
    cases h

theorem fresh_eq (p : ChainParams) :
    fresh p = p.meanVotingBlocks.bind fun mean => p.ticketPoolTarget.map fun target =>
      { params := ⟨p.stakeWindow, p.rewardWindow, p.blockTime, mean⟩, pool := { target } } := rfl

/-- **The overview can be made just when the target of the pool fits.** -/
theorem fresh_ok_iff :
    (∃ o, fresh p = .ok o) ↔ p.ticketPoolSize.toNat * p.ticketsPerBlock.toNat < UInt64.size := by
  rw [← ticketPoolTarget_ok_iff, fresh_eq]
  constructor
  · rintro ⟨o, ho⟩
    cases hm : p.meanVotingBlocks with
    | ok mean => exact target_of_meanVotingBlocks hm
    | error e =>
      rw [hm] at ho
      cases ho
  · rintro ⟨target, ht⟩
    obtain ⟨mean, hm⟩ := meanVotingBlocks_of_target ht
    rw [hm, ht]
    exact ⟨_, rfl⟩

theorem mean_fresh {o : Overview} (h : fresh p = .ok o) : p.meanVotingBlocks = .ok o.params.meanVotingBlocks := by
  rw [fresh_eq] at h
  cases hm : p.meanVotingBlocks with
  | error e =>
    rw [hm] at h
    cases h
  | ok mean =>
    obtain ⟨target, ht⟩ := target_of_meanVotingBlocks hm
    rw [hm, ht] at h
    cases h
    rfl

/-- **It can be refreshed by a block just when the sums fit as well,** whatever the block is. -/
theorem apply_ok_iff {o : Overview} (r : BlockReport) :
    (∃ o', o.apply r p = .ok o') ↔
      p.ticketPoolSize.toNat * p.ticketsPerBlock.toNat < UInt64.size ∧
        fitsInt64 (p.maturitySums o.params.meanVotingBlocks).1 = true ∧
        fitsInt64 (p.maturitySums o.params.meanVotingBlocks).2 = true := by
  rw [← ticketPoolTarget_ok_iff, ← maturityBlocks_ok_iff]
  unfold apply
  cases p.ticketPoolTarget with
  | error e => simp [bind, Except.bind]
  | ok target =>
    cases maturityBlocks o.params.meanVotingBlocks p with
    | error e => simp [bind, Except.bind]
    | ok blocks => simp [bind, Except.bind, pure, Except.pure]

end Overview

/-! ## The publisher -/

namespace Publisher

variable {hub : Hub} {source : Source}

/-- a publisher that is made and then stores blocks, one after another -/
def storeAll (hub : Hub) (source : Source) (reports : List BlockReport) : Except Overflow Publisher := do
  reports.foldlM (fun p r => (p.storeBlock r).map Prod.fst) (← create hub source)

theorem storeAll_nil : storeAll hub source [] = create hub source := by
  unfold storeAll
  cases create hub source <;> rfl

theorem storeAll_concat (reports : List BlockReport) (r : BlockReport) :
    storeAll hub source (reports ++ [r]) =
      (storeAll hub source reports).bind fun p => (p.storeBlock r).map Prod.fst := by
  unfold storeAll
  cases create hub source with
  | error e => rfl
  | ok p =>
    simp only [bind, Except.bind, List.foldlM_append, List.foldlM_cons, List.foldlM_nil]
    cases reports.foldlM (fun p r => (p.storeBlock r).map Prod.fst) p with
    | error e => rfl
    | ok q => cases hq : (q.storeBlock r).map Prod.fst <;> simp [hq, pure, Except.pure]

theorem create_ok_iff :
    (∃ p, create hub source = .ok p) ↔
      source.params.ticketPoolSize.toNat * source.params.ticketsPerBlock.toNat < UInt64.size := by
  rw [← Overview.fresh_ok_iff]
  unfold create
  cases Overview.fresh source.params with
  | error e => simp [Except.map]
  | ok o => simp [Except.map]

/-- in range, one more block is stored, and the publisher tells of it -/
theorem store_abreast {params : ChainParams} {stores : List StoredBlock} {p : Publisher} (hp : params.InRange)
    (ha : p.Abreast params stores) (r : BlockReport) :
    ∃ q task, p.storeBlock r = .ok (q, task) ∧ q.Abreast params (stores ++ [⟨task, r⟩]) := by
  obtain ⟨fresh, hfresh, hconstant⟩ := ha.known
  have hmean := Overview.mean_fresh hfresh
  rw [hconstant] at hmean
  obtain ⟨overview, happly⟩ := (Overview.apply_ok_iff r).2 ⟨hp.target, hp.maturity _ hmean⟩
  rw [← ha.network] at happly
  refine ⟨_, (p.hub.publish (blockEvents r)).2, ?_, ha.store happly (p.hub.publish (blockEvents r)).1⟩
  unfold storeBlock
  rw [happly]
  rfl

/-- in range, any blocks are stored -/
theorem storeAll_abreast (hp : source.params.InRange) (hub : Hub) (reports : List BlockReport) :
    ∃ p stores, storeAll hub source reports = .ok p ∧ p.Abreast source.params stores ∧
      stores.map (·.report) = reports := by
  induction reports using List.reverseRecOn with
  | nil =>
    obtain ⟨p, hcreate⟩ := create_ok_iff.2 hp.target
    exact ⟨p, [], storeAll_nil.trans hcreate, abreast_create hcreate, rfl⟩
  | append_singleton reports r ih =>
    obtain ⟨p, stores, hstored, ha, hreports⟩ := ih
    obtain ⟨q, task, hstore, hq⟩ := store_abreast hp ha r
    refine ⟨q, stores ++ [⟨task, r⟩], ?_, hq, by simp [hreports]⟩
    rw [storeAll_concat, hstored]
    simp [Except.bind, hstore, Except.map]

/-- a publisher that can store a block has parameters that are in range -/
theorem inRange_of_store {p q : Publisher} {task : Nat} {r : BlockReport} (hcreate : create hub source = .ok p)
    (hstore : p.storeBlock r = .ok (q, task)) : source.params.InRange := by
  have ha := abreast_create hcreate
  obtain ⟨fresh, hfresh, hconstant⟩ := ha.known
  have hmean := Overview.mean_fresh hfresh
  have happly : ∃ o, p.overview.apply r source.params = .ok o := by
    unfold storeBlock at hstore
    rw [ha.network] at hstore
    cases happly : p.overview.apply r source.params with
    | ok o => exact ⟨o, rfl⟩
    | error e =>
      rw [happly] at hstore
      cases hstore
  obtain ⟨htarget, hsums⟩ := (Overview.apply_ok_iff r).1 happly
  refine ⟨htarget, fun mean hm => ?_⟩
  have hsame : mean = p.overview.params.meanVotingBlocks := by
    rw [hm, hconstant] at hmean
    exact Except.ok.inj hmean
  rw [hsame]
  exact hsums

/-- the publisher tells of the last of the blocks, with the overview that this block alone gives -/
def TellsLast (params : ChainParams) (reports : List BlockReport) (p : Publisher) : Prop :=
  ∀ last ∈ reports.getLast?, p.block = some last.block ∧
    ∃ fresh, Overview.fresh params = .ok fresh ∧ fresh.apply last params = .ok p.overview

/-- **Blocks are stored without fail just when the parameters are in range.** Then the publisher is made, every
sequence of blocks is stored, and after each of them the latest block and the overview are those of the block just
stored. -/
theorem stored_iff (hub : Hub) (source : Source) :
    (∀ reports, ∃ p, storeAll hub source reports = .ok p ∧ TellsLast source.params reports p) ↔
      source.params.InRange := by
  constructor
  · intro hall
    obtain ⟨p, hcreate, -⟩ := hall []
    obtain ⟨q, hone, -⟩ := hall [{}]
    rw [storeAll_nil] at hcreate
    rw [← List.nil_append [({} : BlockReport)], storeAll_concat, storeAll_nil, hcreate] at hone
    cases hstore : p.storeBlock {} with
    | ok stored => exact inRange_of_store hcreate hstore
    | error e => simp [Except.bind, hstore, Except.map] at hone
  · intro hp reports
    obtain ⟨p, stores, hstored, ha, rfl⟩ := storeAll_abreast hp hub reports
    refine ⟨p, hstored, ?_⟩
    intro last hlast
    rw [List.getLast?_map] at hlast
    obtain ⟨store, hstore, rfl⟩ := Option.map_eq_some_iff.1 hlast
    exact ha.latest store hstore

end Publisher

/-! ## What the check of the settings leaves out -/

/-- the main network with tickets that take longer to mature than any sum can hold -/
def slowTickets : Settings := { chain := { ticketMaturity := 9223372036854775807 } }

/-- the main network with a pool whose target no number holds -/
def crowdedPool : Settings := { chain := { ticketPoolSize := 9223372036854775808, ticketsPerBlock := 2 } }

/-- **The check of the settings overlooks the range.** It lets both settings pass; the first one fails at the first
block, the second one when the publisher is made. -/
theorem Settings.validate_overlooks_range :
    slowTickets.validate = .ok () ∧
      ((Hub.create slowTickets.hub.hubConfig).bind fun hub =>
        (Publisher.storeAll hub (Server.source slowTickets) [{}]).map fun _ => ()) = .error .add ∧
      crowdedPool.validate = .ok () ∧
      ((Hub.create crowdedPool.hub.hubConfig).bind fun hub =>
        (Publisher.create hub (Server.source crowdedPool)).map fun _ => ()) = .error .multiply := by
  refine ⟨rfl, ?_, rfl, ?_⟩
  · decide +kernel
  · decide +kernel

end ChainFeed
