/-
Every payload is read back from its text.

`PayloadType` lists the types of data that are exchanged as texts or kept in files. A value of one is read back from
the text that is written for it as soon as the texts of its doubles are (`PayloadType.restores`): integers, strings,
names, addresses, absent values and lists always are. So a value that was read from any text, with members in any
order, unknown or missing ones among them, or from a list, is settled after the first writing (`reread`).
-/
import ChainFeed.Proofs.Json.Records
import ChainFeed.Proofs.Node.SocketAddress
import ChainFeed.Chain.Activity
import ChainFeed.Chain.Mempool
import ChainFeed.Chain.Overview
import ChainFeed.Feed.Kind
import ChainFeed.Node.Settings

namespace ChainFeed

open Json

/-! ## Blocks -/

/-- all doubles in the summary -/
def BlockSummary.doubles (b : BlockSummary) : List Float := [b.difficulty, b.totalSent, b.fees]

theorem BlockSummary.codec_restores {b : BlockSummary} (h : ∀ x ∈ b.doubles, ReadsBack x) : codec.Restores b := by
  simp only [doubles, List.forall_mem_cons] at h
  obtain ⟨hdifficulty, hsent, hfees, -⟩ := h
  refine record_restores (by decide) rfl ?_
  exact ⟨int64_restores _, string_restores _, int64_restores _, uint32_restores _, float_restores hdifficulty,
    uint32_restores _, uint16_restores _, uint8_restores _, uint8_restores _, float_restores hsent,
    float_restores hfees, trivial⟩

theorem Subsidy.codec_restores (s : Subsidy) : codec.Restores s := by
  refine record_restores (by decide) rfl ?_
  exact ⟨int64_restores _, int64_restores _, int64_restores _, int64_restores _, trivial⟩

/-- all doubles in the report of the pool -/
def TicketPool.doubles (t : TicketPool) : List Float := [t.value, t.average, t.percentage, t.percentTarget]

theorem TicketPool.codec_restores {t : TicketPool} (h : ∀ x ∈ t.doubles, ReadsBack x) : codec.Restores t := by
  simp only [doubles, List.forall_mem_cons] at h
  obtain ⟨hvalue, haverage, hpercentage, htarget, -⟩ := h
  refine record_restores (by decide) rfl ?_
  exact ⟨uint32_restores _, float_restores hvalue, float_restores haverage, float_restores hpercentage,
    float_restores htarget, uint64_restores _, trivial⟩

/-- all doubles in the report of a block -/
def BlockReport.doubles (r : BlockReport) : List Float :=
  r.block.doubles ++ [r.stakeDifficulty, r.nextStakeDifficulty] ++ r.pool.toList.flatMap TicketPool.doubles ++
    r.difficultyDayAgo.toList ++ r.difficultyMonthAgo.toList

theorem BlockReport.codec_restores {r : BlockReport} (h : ∀ x ∈ r.doubles, ReadsBack x) : codec.Restores r := by
  simp only [doubles, List.forall_mem_append, List.forall_mem_cons] at h
  obtain ⟨⟨⟨⟨hblock, hstake, hnext, -⟩, hpool⟩, hday⟩, hmonth⟩ := h
  have hpools : ∀ t ∈ r.pool, TicketPool.codec.Restores t := fun t ht =>
    TicketPool.codec_restores fun x hx => hpool x (List.mem_flatMap.2 ⟨t, by simpa using ht, hx⟩)
  refine record_restores (by decide) rfl ?_
  exact ⟨BlockSummary.codec_restores hblock, int64_restores _, float_restores hstake, float_restores hnext,
    uint64_restores _, Subsidy.codec_restores _, optional_record_restores hpools, optional_float_restores hday,
    optional_float_restores hmonth, string_restores _, list_restores fun s _ => string_restores s, trivial⟩

/-! ## The overview -/

theorem ChainParams.codec_restores (p : ChainParams) : codec.Restores p := by
  refine record_restores (by decide) rfl ?_
  exact ⟨string_restores _, uint64_restores _, uint64_restores _, uint64_restores _, uint64_restores _,
    uint64_restores _, uint64_restores _, uint64_restores _, uint64_restores _, trivial⟩

theorem OverviewParams.codec_restores (p : OverviewParams) : codec.Restores p := by
  refine record_restores (by decide) rfl ?_
  exact ⟨uint64_restores _, uint64_restores _, uint64_restores _, int64_restores _, trivial⟩

/-- all doubles in the overview -/
def Overview.doubles (o : Overview) : List Float :=
  [o.stakeDifficulty, o.nextStakeDifficulty, o.difficulty, o.hashRate, o.hashRateChangeDay, o.hashRateChangeMonth,
    o.ticketReward] ++ o.pool.doubles

theorem Overview.codec_restores {o : Overview} (h : ∀ x ∈ o.doubles, ReadsBack x) : codec.Restores o := by
  simp only [doubles, List.forall_mem_append, List.forall_mem_cons] at h
  obtain ⟨⟨hstake, hnext, hdifficulty, hrate, hday, hmonth, hreward, -⟩, hpool⟩ := h
  refine record_restores (by decide) rfl ?_
  exact ⟨int64_restores _, float_restores hstake, float_restores hnext, float_restores hdifficulty,
    float_restores hrate, float_restores hday, float_restores hmonth, uint64_restores _, uint64_restores _,
    TicketPool.codec_restores hpool, Subsidy.codec_restores _, float_restores hreward, string_restores _,
    OverviewParams.codec_restores _, trivial⟩

/-- all doubles in what is pushed about a block -/
def LatestBlock.doubles (l : LatestBlock) : List Float := l.block.doubles ++ l.overview.doubles

theorem LatestBlock.codec_restores {l : LatestBlock} (h : ∀ x ∈ l.doubles, ReadsBack x) : codec.Restores l := by
  obtain ⟨hblock, hoverview⟩ := List.forall_mem_append.1 h
  refine record_restores (by decide) rfl ?_
  exact ⟨BlockSummary.codec_restores hblock, Overview.codec_restores hoverview, trivial⟩

/-! ## Transactions -/

theorem TxKind.codec_restores (k : TxKind) : codec.Restores k :=
  variant_restores (by cases k <;> decide)

/-- all doubles in the transaction -/
def Transaction.doubles (t : Transaction) : List Float := [t.totalOut, t.fees, t.feeRate]

theorem Transaction.codec_restores {t : Transaction} (h : ∀ x ∈ t.doubles, ReadsBack x) : codec.Restores t := by
  simp only [doubles, List.forall_mem_cons] at h
  obtain ⟨hout, hfees, hrate, -⟩ := h
  refine record_restores (by decide) rfl ?_
  exact ⟨string_restores _, int64_restores _, uint32_restores _, TxKind.codec_restores _, float_restores hout,
    float_restores hfees, float_restores hrate, uint32_restores _, uint32_restores _,
    Field.omitting_restores (optional_int64_restores _) _, trivial⟩

/-- all doubles in the inventory -/
def Mempool.doubles (m : Mempool) : List Float := m.totalOut :: m.latest.flatMap Transaction.doubles

theorem Mempool.codec_restores {m : Mempool} (h : ∀ x ∈ m.doubles, ReadsBack x) : codec.Restores m := by
  obtain ⟨hout, hlatest⟩ := List.forall_mem_cons.1 h
  have htxs : ∀ t ∈ m.latest, Transaction.codec.Restores t := fun t ht =>
    Transaction.codec_restores fun x hx => hlatest x (List.mem_flatMap.2 ⟨t, ht, hx⟩)
  refine record_restores (by decide) rfl ?_
  exact ⟨int64_restores _, int64_restores _, int64_restores _, uint64_restores _, uint32_restores _,
    uint32_restores _, uint32_restores _, uint32_restores _, float_restores hout, list_restores htxs,
    Field.omitting_restores (optional_record_restores fun s _ => s.codec_restores) _, trivial⟩

/-! ## Addresses, progress and kinds -/

theorem AddressActivity.codec_restores (a : AddressActivity) : codec.Restores a := by
  refine record_restores (by decide) rfl ?_
  exact ⟨string_restores _, string_restores _, trivial⟩

/-- all doubles in the stage -/
def SyncStage.doubles (s : SyncStage) : List Float := [s.percentComplete]

theorem SyncStage.codec_restores {s : SyncStage} (h : ∀ x ∈ s.doubles, ReadsBack x) : codec.Restores s := by
  refine record_restores (by decide) rfl ?_
  exact ⟨string_restores _, uint64_restores _, uint64_restores _, float_restores (h _ List.mem_cons_self), trivial⟩

theorem EventKind.codec_restores (k : EventKind) : codec.Restores k :=
  variant_restores (by cases k <;> decide)

/-! ## Settings -/

theorem RpcSettings.codec_restores (r : RpcSettings) : codec.Restores r := by
  refine record_restores (by decide) rfl ?_
  exact ⟨string_restores _, optional_string_restores _, optional_string_restores _, uint64_restores _, trivial⟩

theorem HubSettings.codec_restores (h : HubSettings) : codec.Restores h := by
  refine record_restores (by decide) rfl ?_
  exact ⟨size_restores _, size_restores _, uint64_restores _, uint64_restores _, uint64_restores _, size_restores _,
    size_restores _, uint64_restores _, uint64_restores _, trivial⟩

theorem Settings.codec_restores (s : Settings) : codec.Restores s := by
  refine record_restores (by decide) rfl ?_
  exact ⟨SocketAddress.codec_restores _, string_restores _, bool_restores _, RpcSettings.codec_restores _,
    HubSettings.codec_restores _, ChainParams.codec_restores _, trivial⟩

/-! ## All payloads -/

/-- the types of data that are exchanged as texts or kept in files -/
inductive PayloadType where
  | chainParams
  | blockSummary
  | subsidy
  | ticketPool
  | overviewParams
  | overview
  | blockReport
  | latestBlock
  | txKind
  | transaction
  | mempool
  | addressActivity
  | syncStage
  | eventKind
  | rpcSettings
  | hubSettings
  | settings
deriving DecidableEq, Repr

namespace PayloadType

/-- the values of the type -/
def Carrier : PayloadType → Type
  | chainParams => ChainParams
  | blockSummary => BlockSummary
  | subsidy => Subsidy
  | ticketPool => TicketPool
  | overviewParams => OverviewParams
  | overview => Overview
  | blockReport => BlockReport
  | latestBlock => LatestBlock
  | txKind => TxKind
  | transaction => Transaction
  | mempool => Mempool
  | addressActivity => AddressActivity
  | syncStage => SyncStage
  | eventKind => EventKind
  | rpcSettings => RpcSettings
  | hubSettings => HubSettings
  | settings => Settings

/-- how they are written and read -/
def codec : (type : PayloadType) → Codec type.Carrier
  | chainParams => ChainParams.codec
  | blockSummary => BlockSummary.codec
  | subsidy => Subsidy.codec
  | ticketPool => TicketPool.codec
  | overviewParams => OverviewParams.codec
  | overview => Overview.codec
  | blockReport => BlockReport.codec
  | latestBlock => LatestBlock.codec
  | txKind => TxKind.codec
  | transaction => Transaction.codec
  | mempool => Mempool.codec
  | addressActivity => AddressActivity.codec
  | syncStage => SyncStage.codec
  | eventKind => EventKind.codec
  | rpcSettings => RpcSettings.codec
  | hubSettings => HubSettings.codec
  | settings => Settings.codec

/-- all doubles in a value -/
def doubles : (type : PayloadType) → type.Carrier → List Float
  | blockSummary => BlockSummary.doubles
  | ticketPool => TicketPool.doubles
  | overview => Overview.doubles
  | blockReport => BlockReport.doubles
  | latestBlock => LatestBlock.doubles
  | transaction => Transaction.doubles
  | mempool => Mempool.doubles
  | syncStage => SyncStage.doubles
  | _ => fun _ => []

/-- a payload is read back from its text if its doubles are -/
theorem restores {type : PayloadType} {value : type.Carrier} (h : ∀ x ∈ type.doubles value, ReadsBack x) :
    type.codec.Restores value := by
  cases type with
  | chainParams => exact ChainParams.codec_restores value
  | blockSummary => exact BlockSummary.codec_restores h
  | subsidy => exact Subsidy.codec_restores value
  | ticketPool => exact TicketPool.codec_restores h
  | overviewParams => exact OverviewParams.codec_restores value
  | overview => exact Overview.codec_restores h
  | blockReport => exact BlockReport.codec_restores h
  | latestBlock => exact LatestBlock.codec_restores h
  | txKind => exact TxKind.codec_restores value
  | transaction => exact Transaction.codec_restores h
  | mempool => exact Mempool.codec_restores h
  | addressActivity => exact AddressActivity.codec_restores value
  | syncStage => exact SyncStage.codec_restores h
  | eventKind => exact EventKind.codec_restores value
  | rpcSettings => exact RpcSettings.codec_restores value
  | hubSettings => exact HubSettings.codec_restores value
  | settings => exact Settings.codec_restores value

/-- **Reading and then writing a payload settles its text.** A value read from any text is read back from the text
that is written for it, and that text is written for it again. -/
theorem reread (type : PayloadType) (text : String) (value : type.Carrier) :
    type.codec.parse text = .ok value → (∀ x ∈ type.doubles value, ReadsBack x) →
      type.codec.parse (type.codec.text value) = .ok value ∧
        (type.codec.parse (type.codec.text value)).map type.codec.text = .ok (type.codec.text value) := by
  intro _ hdoubles
  have hback := (restores hdoubles).parse_text
  rw [hback]
  exact ⟨rfl, rfl⟩

/-- an inventory of one vote -/
def oneVote : Mempool := { totalOut := 1.5, latest := [{ hash := "a", time := 7, kind := .vote, fees := 0.25 }] }

/-- a text of it with an unknown member, in another order, with an absent subsidy and the vote as a list -/
def oneVoteText : String :=
  "\x7b\"extra\":[1,\x7b\"a\":null\x7d],\"subsidy\":null,\"total_out\":1.50," ++
    "\"latest\":[[\"a\",7,0,\"vote\",0,0.25,0.0,0,0,null]]\x7d"

theorem parse_oneVoteText : Mempool.codec.parse oneVoteText = .ok oneVote := by
  have hread : (Mempool.codec.parse oneVoteText).toOption = some oneVote := by decide +kernel
  cases h : Mempool.codec.parse oneVoteText with
  | ok m =>
    rw [h] at hread
    exact congrArg _ (Option.some.inj hread)
  | error f =>
    rw [h] at hread
    cases hread

theorem reread_oneVote :
    (∀ x ∈ mempool.doubles oneVote, ReadsBack x) ∧ Mempool.codec.parse (Mempool.codec.text oneVote) = .ok oneVote ∧
      (Mempool.codec.parse (Mempool.codec.text oneVote)).map Mempool.codec.text = .ok (Mempool.codec.text oneVote) := by
  have hback : ∀ x ∈ mempool.doubles oneVote, ReadsBack x := by
    intro x hx
    have hx' : x ∈ [1.5, 0.0, 0.25, 0.0] := hx
    simp only [List.mem_cons, List.not_mem_nil, or_false] at hx'
    rcases hx' with rfl | rfl | rfl | rfl <;> rfl
  exact ⟨hback, reread mempool oneVoteText oneVote parse_oneVoteText hback⟩

end PayloadType

end ChainFeed
