/-
What an inventory of waiting transactions tells about them.

The transactions are sorted first, and then counted one after the other, with sums that stop at an overflow. Main
statements:
- `newestFirst_perm`, `newestFirst_sorted`, `newestFirst_stable`: the list holds the given transactions from the newest
  to the oldest, those of one time as they came.
- `tally_fits`, `tallyAll_fits`: a transaction, and then any list of them, raises the counts and sums by what it holds,
  if they have room for that.
- `Inventoried.figures_eq`: so the whole numbers do not depend on the order.
- `inventory_faithful`: all of it for every list of fewer than 2 ^ 32 transactions, and for what a push lists of it.
-/
import ChainFeed.Chain.Mempool
import Mathlib.Algebra.BigOperators.Group.List.Basic
import Mathlib.Algebra.GroupWithZero.Nat

namespace ChainFeed

/-! ## Checked sums -/

theorem addUInt32_fits {a b : UInt32} (h : a.toNat + b.toNat < UInt32.size) :
    ∃ c, addUInt32 a b = .ok c ∧ c.toNat = a.toNat + b.toNat := by
  refine ⟨a + b, if_pos h, ?_⟩
  rw [UInt32.toNat_add]
  exact Nat.mod_eq_of_lt h

theorem addUInt64_fits {a b : UInt64} (h : a.toNat + b.toNat < UInt64.size) :
    ∃ c, addUInt64 a b = .ok c ∧ c.toNat = a.toNat + b.toNat :=
  ⟨a + b, if_pos h, (addUInt64_ok_iff.1 (if_pos h)).symm⟩

namespace Mempool

variable {m m' : Mempool} {txs txs' : List Transaction}

/-! ## The list -/

theorem newestFirst_perm (txs : List Transaction) : (newestFirst txs).Perm txs :=
  List.mergeSort_perm txs _

/-- the order of the list is total and transitive, as a sort needs it -/
theorem newer_trans (a b c : Transaction) (hab : decide (b.time ≤ a.time) = true)
    (hbc : decide (c.time ≤ b.time) = true) : decide (c.time ≤ a.time) = true := by
  rw [decide_eq_true_eq] at hab hbc ⊢
  exact Int64.le_trans hbc hab

theorem newer_total (a b : Transaction) : (decide (b.time ≤ a.time) || decide (a.time ≤ b.time)) = true := by
  rw [Bool.or_eq_true, decide_eq_true_eq, decide_eq_true_eq]
  exact Int64.le_total _ _

theorem newestFirst_sorted (txs : List Transaction) :
    (newestFirst txs).Pairwise fun a b => b.time ≤ a.time :=
  (List.pairwise_mergeSort newer_trans newer_total txs).imp fun h => of_decide_eq_true h

/-- **Transactions of one time stay in their order.** -/
theorem newestFirst_stable (txs : List Transaction) (time : Int64) :
    (newestFirst txs).filter (·.time = time) = txs.filter (·.time = time) := by
  have hequal : (txs.filter (·.time = time)).Pairwise fun a b => decide (b.time ≤ a.time) = true := by
    refine List.pairwise_of_forall_mem_list fun a ha b hb => ?_
    have hat : a.time = time := of_decide_eq_true (List.mem_filter.1 ha).2
    have hbt : b.time = time := of_decide_eq_true (List.mem_filter.1 hb).2
    rw [hat, hbt]
    exact decide_eq_true (Int64.le_refl time)
  have hsub : (txs.filter (·.time = time)).Sublist (newestFirst txs) :=
    List.sublist_mergeSort newer_trans newer_total hequal List.filter_sublist
  -- both sides have as many transactions, so the sublist is all of it
  have hboth := hsub.filter (·.time = time)
  rw [List.filter_filter] at hboth
  simp only [Bool.and_self] at hboth
  exact (hboth.eq_of_length ((newestFirst_perm txs).filter _).length_eq.symm).symm

/-! ## Counts and sums -/

/-- the count of the transactions of a kind -/
def counter (m : Mempool) : TxKind → UInt32
  | .regular => m.regular
  | .ticket => m.tickets
  | .vote => m.votes
  | .revocation => m.revocations

/-- replaces the count of the transactions of a kind -/
def setCounter (m : Mempool) (n : UInt32) : TxKind → Mempool
  | .regular => { m with regular := n }
  | .ticket => { m with tickets := n }
  | .vote => { m with votes := n }
  | .revocation => { m with revocations := n }

@[simp] theorem counter_setCounter (m : Mempool) (n : UInt32) (k j : TxKind) :
    (m.setCounter n k).counter j = if k = j then n else m.counter j := by
  cases k <;> cases j <;> rfl

theorem setCounter_frame (m : Mempool) (n : UInt32) (k : TxKind) :
    (m.setCounter n k).totalSize = m.totalSize ∧ (m.setCounter n k).lastBlockHeight = m.lastBlockHeight ∧
      (m.setCounter n k).lastBlockTime = m.lastBlockTime ∧ (m.setCounter n k).time = m.time ∧
      (m.setCounter n k).latest = m.latest ∧ (m.setCounter n k).subsidy = m.subsidy := by
  cases k <;> exact ⟨rfl, rfl, rfl, rfl, rfl, rfl⟩

/-- the bytes of transactions -/
def bytes (txs : List Transaction) : Nat :=
  (txs.map (·.size.toNat)).sum

/-- the transactions of a kind -/
def number (k : TxKind) (txs : List Transaction) : Nat :=
  txs.countP (·.kind = k)

theorem number_cons (k : TxKind) (t : Transaction) (txs : List Transaction) :
    number k (t :: txs) = (if t.kind = k then 1 else 0) + number k txs := by
  unfold number
  rw [List.countP_cons, Nat.add_comm]
  simp

/-- every transaction is of one kind -/
theorem number_all (txs : List Transaction) :
    number .regular txs + number .ticket txs + number .vote txs + number .revocation txs = txs.length := by
  induction txs with
  | nil => rfl
  | cons t txs ih =>
    simp only [number_cons, List.length_cons]
    cases t.kind <;> simp <;> omega

theorem bytes_le (txs : List Transaction) : bytes txs ≤ txs.length * (UInt32.size - 1) := by
  induction txs with
  | nil => exact Nat.le_refl 0
  | cons t txs ih =>
    have hsize := t.size.toNat_lt_size
    have hcons : bytes (t :: txs) = t.size.toNat + bytes txs := by simp [bytes]
    rw [hcons, List.length_cons, Nat.add_mul, Nat.one_mul]
    omega

/-- `m'` is `m` after these transactions were counted -/
structure Tallied (m : Mempool) (txs : List Transaction) (m' : Mempool) : Prop where
  size : m'.totalSize.toNat = m.totalSize.toNat + bytes txs
  counter : ∀ k, (m'.counter k).toNat = (m.counter k).toNat + number k txs
  block : m'.lastBlockHeight = m.lastBlockHeight ∧ m'.lastBlockTime = m.lastBlockTime
  time : m'.time = m.time
  latest : m'.latest = m.latest
  subsidy : m'.subsidy = m.subsidy

theorem tally_eq (m : Mempool) (t : Transaction) : m.tally t =
    (addUInt64 m.totalSize t.size.toUInt64).bind fun size => (addUInt32 (m.counter t.kind) 1).map fun n =>
      { m with totalSize := size, totalOut := m.totalOut + t.totalOut }.setCounter n t.kind := by
  unfold tally
  cases addUInt64 m.totalSize t.size.toUInt64 with
  | error e => rfl
  | ok size =>
    cases hk : t.kind <;> simp only [counter, bind, Except.bind]
    · cases addUInt32 m.regular 1 <;> rfl
    · cases addUInt32 m.tickets 1 <;> rfl
    · cases addUInt32 m.votes 1 <;> rfl
    · cases addUInt32 m.revocations 1 <;> rfl

/-- **A transaction is counted**, if there is room for it. -/
theorem tally_fits {t : Transaction} (hsize : m.totalSize.toNat + t.size.toNat < UInt64.size)
    (hcounter : (m.counter t.kind).toNat + 1 < UInt32.size) : ∃ m', m.tally t = .ok m' ∧ Tallied m [t] m' := by
  obtain ⟨size, hok, hsum⟩ := addUInt64_fits (a := m.totalSize) (b := t.size.toUInt64) (by simpa using hsize)
  obtain ⟨n, hok', hone⟩ := addUInt32_fits (a := m.counter t.kind) (b := 1) hcounter
  have htally := tally_eq m t
  simp only [hok, hok', Except.bind, Except.map] at htally
  obtain ⟨hframe, hheight, hblock, htime, hlatest, hsubsidy⟩ :=
    setCounter_frame { m with totalSize := size, totalOut := m.totalOut + t.totalOut } n t.kind
  refine ⟨_, htally, ?_, fun k => ?_, ⟨hheight, hblock⟩, htime, hlatest, hsubsidy⟩
  · rw [hframe, hsum]
    simp [bytes]
  · rw [counter_setCounter, number_cons]
    split_ifs with hk
    · rw [hone, hk]
      rfl
    · rfl

/-- **And so is any list of them**, one after the other. -/
theorem tallyAll_fits (hsize : m.totalSize.toNat + bytes txs < UInt64.size)
    (hcounter : ∀ k, (m.counter k).toNat + number k txs < UInt32.size) :
    ∃ m', txs.foldlM tally m = .ok m' ∧ Tallied m txs m' := by
  induction txs generalizing m with
  | nil => exact ⟨m, rfl, rfl, fun _ => rfl, ⟨rfl, rfl⟩, rfl, rfl, rfl⟩
  | cons t txs ih =>
    have hbytes : bytes (t :: txs) = bytes [t] + bytes txs := by simp [bytes]
    have hnumber : ∀ k, number k (t :: txs) = number k [t] + number k txs := fun k => by
      rw [number_cons, number_cons k t []]
      rfl
    have hone : bytes [t] = t.size.toNat := by simp [bytes]
    have hkind : number t.kind [t] = 1 := by simp [number]
    have hroom := hcounter t.kind
    rw [hnumber] at hroom
    obtain ⟨m₁, hfirst, hm₁⟩ := tally_fits (m := m) (t := t) (by omega) (by omega)
    obtain ⟨m', hrest, hm'⟩ := ih (m := m₁) (by rw [hm₁.size]; omega) fun k => by
      have hk := hcounter k
      rw [hnumber] at hk
      rw [hm₁.counter]
      omega
    refine ⟨m', ?_, ?_, fun k => ?_, ?_, hm'.time.trans hm₁.time, hm'.latest.trans hm₁.latest,
      hm'.subsidy.trans hm₁.subsidy⟩
    · rw [List.foldlM_cons, hfirst]
      exact hrest
    · rw [hm'.size, hm₁.size, hbytes, Nat.add_assoc]
    · rw [hm'.counter, hm₁.counter, hnumber, Nat.add_assoc]
    · exact ⟨hm'.block.1.trans hm₁.block.1, hm'.block.2.trans hm₁.block.2⟩

/-! ## Inventories -/

/-- `time` is the time of the newest transaction, and that of the block if there is none -/
structure IsNewest (blockTime : Int64) (txs : List Transaction) (time : Int64) : Prop where
  none : txs = [] → time = blockTime
  attained : txs ≠ [] → ∃ t ∈ txs, t.time = time
  above : ∀ t ∈ txs, t.time ≤ time

theorem IsNewest.unique {blockTime a b : Int64} (ha : IsNewest blockTime txs a) (hb : IsNewest blockTime txs b) :
    a = b := by
  by_cases hnone : txs = []
  · rw [ha.none hnone, hb.none hnone]
  · obtain ⟨s, hs, rfl⟩ := ha.attained hnone
    obtain ⟨t, ht, rfl⟩ := hb.attained hnone
    exact Int64.le_antisymm (hb.above s hs) (ha.above t ht)

theorem IsNewest.of_perm {blockTime time : Int64} (h : IsNewest blockTime txs time) (hp : txs.Perm txs') :
    IsNewest blockTime txs' time where
  none hnone := h.none (hnone ▸ hp).eq_nil
  attained hsome := by
    obtain ⟨t, ht, htime⟩ := h.attained fun hnone => hsome (hnone ▸ hp).symm.eq_nil
    exact ⟨t, hp.mem_iff.1 ht, htime⟩
  above t ht := h.above t (hp.mem_iff.2 ht)

/-- the newest transaction is the first of the list -/
theorem isNewest_head (blockTime : Int64) (hsorted : txs.Pairwise fun a b => b.time ≤ a.time) :
    IsNewest blockTime txs ((txs.head?.map Transaction.time).getD blockTime) := by
  cases txs with
  | nil => exact ⟨fun _ => rfl, fun h => absurd rfl h, fun t ht => by cases ht⟩
  | cons first rest =>
    refine ⟨fun h => absurd h (List.cons_ne_nil _ _), fun _ => ⟨first, List.mem_cons_self, rfl⟩, fun t ht => ?_⟩
    rcases List.mem_cons.1 ht with rfl | ht
    · exact Int64.le_refl _
    · exact (List.pairwise_cons.1 hsorted).1 t ht

/-- `m` is the inventory of transactions on top of a block -/
structure Inventoried (height blockTime : Int64) (txs : List Transaction) (m : Mempool) : Prop where
  block : m.lastBlockHeight = height ∧ m.lastBlockTime = blockTime
  latest : m.latest = newestFirst txs
  time : IsNewest blockTime txs m.time
  size : m.totalSize.toNat = bytes txs
  counter : ∀ k, (m.counter k).toNat = number k txs

/-- **Every list that is not too long has an inventory.** -/
theorem exists_inventory (height blockTime : Int64) (hlen : txs.length < 2 ^ 32) :
    ∃ m, ofTransactions height blockTime txs = .ok m ∧ Inventoried height blockTime txs m := by
  have hperm := newestFirst_perm txs
  have hbytes : bytes (newestFirst txs) = bytes txs := (hperm.map _).sum_eq
  have hnumber : ∀ k, number k (newestFirst txs) = number k txs := fun k => hperm.countP_eq _
  have hroom : bytes txs ≤ (2 ^ 32 - 1) * (UInt32.size - 1) :=
    Nat.le_trans (bytes_le txs) (Nat.mul_le_mul_right _ (by omega))
  let start : Mempool :=
    { lastBlockHeight := height
      lastBlockTime := blockTime
      time := ((newestFirst txs).head?.map Transaction.time).getD blockTime
      latest := newestFirst txs }
  have hzero : ∀ k, (start.counter k).toNat = 0 := by rintro (_ | _ | _ | _) <;> rfl
  obtain ⟨m, hm, htallied⟩ : ∃ m, (newestFirst txs).foldlM tally start = .ok m ∧
      Tallied start (newestFirst txs) m := by
    refine tallyAll_fits ?_ fun k => ?_
    · rw [hbytes]
      exact Nat.lt_of_le_of_lt (Nat.add_le_add_left hroom 0) (by decide)
    · have hle : number k txs ≤ txs.length := List.countP_le_length
      rw [hnumber, hzero, Nat.zero_add]
      exact Nat.lt_of_le_of_lt hle hlen
  have hnewest := isNewest_head blockTime (newestFirst_sorted txs)
  refine ⟨m, hm, htallied.block, htallied.latest, ?_, ?_, fun k => ?_⟩
  · rw [htallied.time]
    exact hnewest.of_perm hperm
  · rw [htallied.size, hbytes]
    exact Nat.zero_add _
  · rw [htallied.counter, hzero, hnumber, Nat.zero_add]

/-- the whole numbers of an inventory: the height and the time of the block, the time of the newest transaction, the
bytes, and the counts by kind -/
def figures (m : Mempool) : (Int64 × Int64 × Int64) × UInt64 × (UInt32 × UInt32 × UInt32 × UInt32) :=
  ((m.lastBlockHeight, m.lastBlockTime, m.time), m.totalSize, m.regular, m.tickets, m.votes, m.revocations)

/-- **The whole numbers do not depend on the order of the transactions.** -/
theorem Inventoried.figures_eq {height blockTime : Int64} (h : Inventoried height blockTime txs m)
    (h' : Inventoried height blockTime txs' m') (hp : txs'.Perm txs) : m'.figures = m.figures := by
  have hcounter : ∀ k, m'.counter k = m.counter k := fun k => by
    rw [← UInt32.toNat_inj, h.counter, h'.counter]
    exact hp.countP_eq _
  have hsize : m'.totalSize = m.totalSize := by
    rw [← UInt64.toNat_inj, h.size, h'.size]
    exact (hp.map _).sum_eq
  have htime : m'.time = m.time := (h'.time.of_perm hp).unique h.time
  have hregular : m'.regular = m.regular := hcounter .regular
  have htickets : m'.tickets = m.tickets := hcounter .ticket
  have hvotes : m'.votes = m.votes := hcounter .vote
  have hrevocations : m'.revocations = m.revocations := hcounter .revocation
  unfold figures
  rw [h.block.1, h.block.2, h'.block.1, h'.block.2, htime, hsize, hregular, htickets, hvotes, hrevocations]

/-- the counts add up to the length of the list -/
theorem Inventoried.count_eq {height blockTime : Int64} (h : Inventoried height blockTime txs m)
    (hlen : txs.length < 2 ^ 32) : ∃ n, m.count = .ok n ∧ n.toNat = txs.length := by
  have hall := number_all txs
  have hregular : m.regular.toNat = number .regular txs := h.counter .regular
  have htickets : m.tickets.toNat = number .ticket txs := h.counter .ticket
  have hvotes : m.votes.toNat = number .vote txs := h.counter .vote
  have hrevocations : m.revocations.toNat = number .revocation txs := h.counter .revocation
  have hsize : UInt32.size = 2 ^ 32 := rfl
  obtain ⟨a, ha, hasum⟩ := addUInt32_fits (a := m.regular) (b := m.tickets) (by omega)
  obtain ⟨b, hb, hbsum⟩ := addUInt32_fits (a := a) (b := m.votes) (by omega)
  obtain ⟨n, hn, hnsum⟩ := addUInt32_fits (a := b) (b := m.revocations) (by omega)
  refine ⟨n, ?_, by omega⟩
  unfold count
  rw [ha]
  simp only [bind, Except.bind, hb, hn]

/-! ## What a push lists -/

/-- the inventory `s` is `m` with the newest `n` transactions only -/
structure Shortened (m : Mempool) (n : Nat) (s : Mempool) : Prop where
  length : s.latest.length = min n m.latest.length
  /-- those left out come after those kept, and none of them is newer -/
  newest : ∃ rest, m.latest = s.latest ++ rest ∧ ∀ kept ∈ s.latest, ∀ left ∈ rest, left.time ≤ kept.time
  /-- nothing else changes -/
  others : { s with latest := m.latest } = m

theorem short_shortened (hsorted : m.latest.Pairwise fun a b => b.time ≤ a.time) (n : Nat) :
    Shortened m n (m.short n) where
  length := List.length_take
  newest := by
    have hsplit : m.latest.take n ++ m.latest.drop n = m.latest := List.take_append_drop n m.latest
    refine ⟨m.latest.drop n, hsplit.symm, fun kept hkept left hleft => ?_⟩
    rw [← hsplit] at hsorted
    exact (List.pairwise_append.1 hsorted).2.2 kept hkept left hleft
  others := rfl

theorem short_short (m : Mempool) (n k : Nat) : (m.short n).short k = m.short (min k n) := by
  simp [short, List.take_take]

/-! ## The inventory as a whole -/

/-- what the inventory `m` of transactions tells about them -/
structure Faithful (height blockTime : Int64) (txs : List Transaction) (m : Mempool) : Prop where
  block : m.lastBlockHeight = height ∧ m.lastBlockTime = blockTime
  /-- it lists them from the newest to the oldest, those of one time as they came -/
  listed : m.latest.Perm txs
  sorted : m.latest.Pairwise fun a b => b.time ≤ a.time
  stable : ∀ time, m.latest.filter (·.time = time) = txs.filter (·.time = time)
  time : IsNewest blockTime txs m.time
  counter : ∀ k, (m.counter k).toNat = number k txs
  count : ∃ n, m.count = .ok n ∧ n.toNat = txs.length
  size : m.totalSize.toNat = bytes txs
  /-- the whole numbers are the same in whatever order they are given -/
  unordered : ∀ txs', txs'.Perm txs →
    ∃ m', ofTransactions height blockTime txs' = .ok m' ∧ m'.figures = m.figures
  /-- a push lists the newest of them -/
  short : ∀ n, Shortened m n (m.short n)
  shorter : ∀ n k, (m.short n).short k = m.short (min k n)

/-- **An inventory is faithful**: for every list of fewer than 2 ^ 32 transactions no count and no sum overflows, and the
inventory lists, counts and sums up just these transactions. -/
theorem inventory_faithful (height blockTime : Int64) (txs : List Transaction) (hlen : txs.length < 2 ^ 32) :
    ∃ m, ofTransactions height blockTime txs = .ok m ∧ Faithful height blockTime txs m := by
  obtain ⟨m, hm, hinv⟩ := exists_inventory height blockTime hlen
  have hsorted : m.latest.Pairwise fun a b => b.time ≤ a.time := hinv.latest ▸ newestFirst_sorted txs
  refine ⟨m, hm, hinv.block, hinv.latest ▸ newestFirst_perm txs, hsorted, ?_, hinv.time, hinv.counter,
    hinv.count_eq hlen, hinv.size, ?_, short_shortened hsorted, short_short m⟩
  · intro time
    rw [hinv.latest]
    exact newestFirst_stable txs time
  · intro txs' hp
    have hlen' : txs'.length < 2 ^ 32 := by rwa [hp.length_eq]
    obtain ⟨m', hm', hinv'⟩ := exists_inventory height blockTime hlen'
    exact ⟨m', hm', hinv.figures_eq hinv' hp⟩

/-- two votes of one time, a ticket from before the epoch, and a newer transaction -/
def fourTransactions : List Transaction :=
  [{ hash := "a", time := 5, size := 4, kind := .vote }, { hash := "b", time := -3, size := 5, kind := .ticket },
    { hash := "c", time := 9, size := 0xFFFFFFFF }, { hash := "d", time := 5, kind := .vote }]

/-- the newest comes first and the oldest last, and the bytes do not fit 32 bits any more -/
theorem inventory_faithful_four :
    fourTransactions.length < 2 ^ 32 ∧ ∃ m, ofTransactions 7 0 fourTransactions = .ok m ∧
      m.latest.map (·.hash) = ["c", "a", "d", "b"] ∧ m.figures = ((7, 0, 9), 0x100000008, 1, 1, 2, 0) ∧
      Faithful 7 0 fourTransactions m := by
  have hlen : fourTransactions.length < 2 ^ 32 := by decide
  obtain ⟨m, hm, hfaithful⟩ := inventory_faithful 7 0 fourTransactions hlen
  have hsorted : newestFirst fourTransactions =
      [{ hash := "c", time := 9, size := 0xFFFFFFFF }, { hash := "a", time := 5, size := 4, kind := .vote },
        { hash := "d", time := 5, kind := .vote }, { hash := "b", time := -3, size := 5, kind := .ticket }] := by
    simp [newestFirst, fourTransactions, List.mergeSort, List.MergeSort.Internal.splitInTwo]
  have hlatest : (ofTransactions 7 0 fourTransactions).toOption.map (·.latest.map (·.hash)) =
      some ["c", "a", "d", "b"] := by
    unfold ofTransactions
    rw [hsorted]
    decide +kernel
  have hfigures : (ofTransactions 7 0 fourTransactions).toOption.map figures =
      some ((7, 0, 9), 0x100000008, 1, 1, 2, 0) := by
    unfold ofTransactions
    rw [hsorted]
    decide +kernel
  rw [hm] at hlatest hfigures
  exact ⟨hlen, m, hm, Option.some.inj hlatest, Option.some.inj hfigures, hfaithful⟩

end Mempool

end ChainFeed
