/-
The settings of a node one by one: where each of them is named, what is taken for it, and where it is kept.

- `Slot.Lawful`: the slots of a group do not get in each other's way, and tell all of it.
- `toGroup?_table`, `isSome_toGroup?_table`: what a table is read as, slot by slot.
- `toGroup?_assign`: a group with another value in one slot.
- `leaves`, `toSettings?_table`, `isSome_toSettings?_table`: the same for all settings of a node, by their paths.
-/
import ChainFeed.Proofs.Node.Paths
import Mathlib.Data.List.Nodup

namespace ChainFeed

namespace Setting

/-! ## Groups -/

/-- a place in a group of settings: its name, what is taken for a value of it, and how it is looked at and changed -/
structure Slot (α : Type) where
  {Value : Type}
  name : String
  read : Setting → Option Value
  get : α → Value
  set : Value → α → α

variable {α : Type} {slots : List (Slot α)} {base a : α} {entries : List (String × Setting)}

namespace Slot

/-- the slot as a member that can be put -/
def member (s : Slot α) : Member α :=
  .of s.name s.read s.set

/-- a change of one slot does not show in the other -/
def Unmoved (s t : Slot α) : Prop :=
  ∀ v a, t.get (s.set v a) = t.get a

/-- the slots of a group do not get in each other's way, and tell all of it -/
structure Lawful (slots : List (Slot α)) : Prop where
  named : (slots.map Slot.name).Nodup
  kept : ∀ s ∈ slots, ∀ v a, s.get (s.set v a) = v
  apart : slots.Pairwise fun s t => s.Unmoved t ∧ t.Unmoved s
  ext : ∀ a b, (∀ s ∈ slots, s.get a = s.get b) → a = b

/-- what a slot of `a` holds is what is taken for the value that was given, or that of `base` if none was -/
def Holds (s : Slot α) (base a : α) (given : Option Setting) : Prop :=
  match given with
  | some v => s.read v = some (s.get a)
  | none => s.get a = s.get base

theorem Holds.readable {s : Slot α} {given : Option Setting} (hh : s.Holds base a given) :
    ∀ v ∈ given, (s.read v).isSome = true := by
  rintro v rfl
  exact Option.isSome_iff_exists.2 ⟨_, hh⟩

end Slot

/-- a group after the values of a table were put into its slots -/
def filled? (slots : List (Slot α)) (base : α) (entries : List (String × Setting)) : Option α :=
  toGroup? (slots.map Slot.member) base (table entries)

theorem filled?_nil : filled? ([] : List (Slot α)) base entries = some base := rfl

/-- one slot after the other gets its value, if there is one -/
theorem filled?_cons (s : Slot α) : filled? (s :: slots) base entries =
    match entries.lookup s.name with
    | some v => (s.read v).bind fun x => filled? slots (s.set x base) entries
    | none => filled? slots base entries := by
  simp only [filled?, toGroup?, List.map_cons, List.foldlM_cons, Slot.member, Member.of, Option.bind_eq_bind]
  rcases entries.lookup s.name with _ | v
  · rfl
  · rw [Option.bind_map]
    rfl

/-- what is put into other slots does not show -/
theorem get_of_filled? {t : Slot α} (ht : ∀ s ∈ slots, s.Unmoved t) (hf : filled? slots base entries = some a) :
    t.get a = t.get base := by
  induction slots generalizing base with
  | nil =>
    cases hf
    rfl
  | cons s slots ih =>
    obtain ⟨hs, ht⟩ := List.forall_mem_cons.1 ht
    rw [filled?_cons] at hf
    split at hf
    · obtain ⟨x, -, hf⟩ := Option.bind_eq_some_iff.1 hf
      exact (ih ht hf).trans (hs x base)
    · exact ih ht hf

theorem holds_of_filled? (hkept : ∀ s ∈ slots, ∀ v a, s.get (s.set v a) = v)
    (hapart : slots.Pairwise fun s t => s.Unmoved t ∧ t.Unmoved s) (hf : filled? slots base entries = some a) :
    ∀ s ∈ slots, s.Holds base a (entries.lookup s.name) := by
  induction slots generalizing base with
  | nil => simp
  | cons s slots ih =>
    obtain ⟨hs, hkept⟩ := List.forall_mem_cons.1 hkept
    obtain ⟨hfirst, hapart⟩ := List.pairwise_cons.1 hapart
    have hlater : ∀ b, filled? slots b entries = some a → s.get a = s.get b :=
      fun b hb => get_of_filled? (fun t ht => (hfirst t ht).2) hb
    rw [filled?_cons] at hf
    refine List.forall_mem_cons.2 ⟨?_, ?_⟩
    · split at hf
      · rename_i v hv
        obtain ⟨x, hx, hf⟩ := Option.bind_eq_some_iff.1 hf
        rw [hv, Slot.Holds, hlater _ hf, hs, hx]
      · rename_i hnone
        rw [hnone]
        exact hlater _ hf
    · intro t ht
      split at hf
      · obtain ⟨x, -, hf⟩ := Option.bind_eq_some_iff.1 hf
        have hsame : t.get (s.set x base) = t.get base := (hfirst t ht).1 x base
        have hrest := ih hkept hapart hf t ht
        unfold Slot.Holds at hrest ⊢
        split
        · rename_i hv
          rwa [hv] at hrest
        · rename_i hnone
          rw [hnone] at hrest
          exact hrest.trans hsame
      · exact ih hkept hapart hf t ht

/-- **A table is refused only for a value that is not taken for what its slot holds.** -/
theorem isSome_toGroup?_table : (toGroup? (slots.map Slot.member) base (table entries)).isSome = true ↔
    ∀ s ∈ slots, ∀ v ∈ entries.lookup s.name, (s.read v).isSome = true := by
  rw [← filled?]
  induction slots generalizing base with
  | nil => simp [filled?_nil]
  | cons s slots ih =>
    rw [filled?_cons, List.forall_mem_cons]
    rcases entries.lookup s.name with _ | v
    · simpa using ih
    · rcases hx : s.read v with _ | x
      · simp [hx]
      · simpa [hx] using ih

/-- **What a table is read as, slot by slot.** -/
theorem toGroup?_table (hl : Slot.Lawful slots) : toGroup? (slots.map Slot.member) base (table entries) = some a ↔
    ∀ s ∈ slots, s.Holds base a (entries.lookup s.name) := by
  have hholds : ∀ b, toGroup? (slots.map Slot.member) base (table entries) = some b →
      ∀ s ∈ slots, s.Holds base b (entries.lookup s.name) := fun b hb => holds_of_filled? hl.kept hl.apart hb
  refine ⟨hholds a, fun ha => ?_⟩
  obtain ⟨b, hb⟩ := Option.isSome_iff_exists.1 (isSome_toGroup?_table.2 fun s hs => (ha s hs).readable)
  rw [hb, hl.ext b a]
  intro s hs
  have hboth := hholds b hb s hs
  have hone := ha s hs
  unfold Slot.Holds at hboth hone
  split at hone
  · rename_i hv
    rw [hv] at hboth
    exact Option.some.inj (hboth.symm.trans hone)
  · rename_i hnone
    rw [hnone] at hboth
    exact hboth.trans hone.symm

/-- **A group with another value in one slot.** What was taken before is taken again if that value is. -/
theorem toGroup?_assign (hl : Slot.Lawful slots) {s : Slot α} (hs : s ∈ slots) {v : Setting} {x : s.Value}
    (hx : s.read v = some x) (hvalid : (toGroup? (slots.map Slot.member) base (table entries)).isSome = true) :
    ∃ a, toGroup? (slots.map Slot.member) base (table (assign s.name v entries)) = some a ∧ s.get a = x := by
  rw [isSome_toGroup?_table] at hvalid
  have hsome : (toGroup? (slots.map Slot.member) base (table (assign s.name v entries))).isSome = true := by
    rw [isSome_toGroup?_table]
    intro t ht w hw
    by_cases hname : t.name = s.name
    · obtain rfl := List.inj_on_of_nodup_map hl.named ht hs hname
      rw [lookup_assign_self] at hw
      cases hw
      rw [hx]
      rfl
    · rw [lookup_assign_of_ne hname] at hw
      exact hvalid t ht w hw
  obtain ⟨a, ha⟩ := Option.isSome_iff_exists.1 hsome
  have hholds := (toGroup?_table hl).1 ha s hs
  rw [lookup_assign_self] at hholds
  exact ⟨a, ha, Option.some.inj (hholds.symm.trans hx)⟩

end Setting

open Setting

/-! ## The groups of a node -/

def ChainParams.slots : List (Slot ChainParams) :=
  [⟨"name", toText?, name, fun v p => { p with name := v }⟩,
   ⟨"target_time_per_block_secs", toUInt64?, blockTime, fun v p => { p with blockTime := v }⟩,
   ⟨"ticket_pool_size", toUInt64?, ticketPoolSize, fun v p => { p with ticketPoolSize := v }⟩,
   ⟨"tickets_per_block", toUInt64?, ticketsPerBlock, fun v p => { p with ticketsPerBlock := v }⟩,
   ⟨"ticket_maturity", toUInt64?, ticketMaturity, fun v p => { p with ticketMaturity := v }⟩,
   ⟨"ticket_expiry", toUInt64?, ticketExpiry, fun v p => { p with ticketExpiry := v }⟩,
   ⟨"coinbase_maturity", toUInt64?, coinbaseMaturity, fun v p => { p with coinbaseMaturity := v }⟩,
   ⟨"stake_diff_window_size", toUInt64?, stakeWindow, fun v p => { p with stakeWindow := v }⟩,
   ⟨"subsidy_reduction_interval", toUInt64?, rewardWindow, fun v p => { p with rewardWindow := v }⟩]

def RpcSettings.slots : List (Slot RpcSettings) :=
  [⟨"url", toText?, url, fun v r => { r with url := v }⟩,
   ⟨"user", toOptionalText?, user, fun v r => { r with user := v }⟩,
   ⟨"password", toOptionalText?, password, fun v r => { r with password := v }⟩,
   ⟨"timeout_secs", toUInt64?, timeoutSecs, fun v r => { r with timeoutSecs := v }⟩]

def HubSettings.slots : List (Slot HubSettings) :=
  [⟨"client_queue_size", toUInt64?, clientQueue, fun v h => { h with clientQueue := v }⟩,
   ⟨"tx_buffer_size", toUInt64?, txBuffer, fun v h => { h with txBuffer := v }⟩,
   ⟨"flush_interval_ms", toUInt64?, flushIntervalMs, fun v h => { h with flushIntervalMs := v }⟩,
   ⟨"ping_interval_secs", toUInt64?, pingIntervalSecs, fun v h => { h with pingIntervalSecs := v }⟩,
   ⟨"publish_timeout_secs", toUInt64?, publishTimeoutSecs, fun v h => { h with publishTimeoutSecs := v }⟩,
   ⟨"relay_capacity", toUInt64?, relayCapacity, fun v h => { h with relayCapacity := v }⟩,
   ⟨"max_request_bytes", toUInt64?, maxRequestBytes, fun v h => { h with maxRequestBytes := v }⟩,
   ⟨"read_timeout_secs", toUInt64?, readTimeoutSecs, fun v h => { h with readTimeoutSecs := v }⟩,
   ⟨"write_timeout_secs", toUInt64?, writeTimeoutSecs, fun v h => { h with writeTimeoutSecs := v }⟩]

/-- the settings of a node that are in no group -/
def Settings.single : List (Slot Settings) :=
  [⟨"api_addr", toAddress?, apiAddr, fun v s => { s with apiAddr := v }⟩,
   ⟨"log_level", toText?, logLevel, fun v s => { s with logLevel := v }⟩,
   ⟨"log_json", toBool?, logJson, fun v s => { s with logJson := v }⟩]

/-- a group of settings as a slot, whose values are read from a base on -/
def Setting.Slot.group {α β : Type} (name : String) (slots : List (Slot α)) (base : α) (get : β → α)
    (set : α → β → β) : Slot β :=
  ⟨name, toGroup? (slots.map member) base, get, set⟩

def Settings.grouped : List (Slot Settings) :=
  [.group "rpc" RpcSettings.slots {} rpc fun v s => { s with rpc := v },
   .group "hub" HubSettings.slots {} hub fun v s => { s with hub := v },
   .group "chain" ChainParams.slots {} chain fun v s => { s with chain := v }]

def Settings.slots : List (Slot Settings) :=
  Settings.single ++ Settings.grouped

theorem ChainParams.members_eq : ChainParams.members = ChainParams.slots.map Slot.member := rfl

theorem RpcSettings.members_eq : RpcSettings.members = RpcSettings.slots.map Slot.member := rfl

theorem HubSettings.members_eq : HubSettings.members = HubSettings.slots.map Slot.member := rfl

theorem Settings.members_eq : Settings.members = Settings.slots.map Slot.member := rfl

theorem ChainParams.lawful : Slot.Lawful ChainParams.slots where
  named := by simp [slots]
  kept := by simp [slots]
  apart := by simp [slots, Slot.Unmoved]
  ext := by
    rintro ⟨⟩ ⟨⟩ h
    simpa [slots] using h

theorem RpcSettings.lawful : Slot.Lawful RpcSettings.slots where
  named := by simp [slots]
  kept := by simp [slots]
  apart := by simp [slots, Slot.Unmoved]
  ext := by
    rintro ⟨⟩ ⟨⟩ h
    simpa [slots] using h

theorem HubSettings.lawful : Slot.Lawful HubSettings.slots where
  named := by simp [slots]
  kept := by simp [slots]
  apart := by simp [slots, Slot.Unmoved]
  ext := by
    rintro ⟨⟩ ⟨⟩ h
    simpa [slots] using h

theorem Settings.lawful : Slot.Lawful Settings.slots where
  named := by simp [slots, single, grouped, Slot.group]
  kept := by simp [slots, single, grouped, Slot.group]
  apart := by simp [slots, single, grouped, Slot.group, Slot.Unmoved]
  ext := by
    rintro ⟨⟩ ⟨⟩ h
    simpa [slots, single, grouped, Slot.group] using h

/-! ## All settings of a node -/

namespace Settings

/-- one setting of a node: its path, what is taken for a value of it, and where it is kept -/
structure Leaf where
  {Value : Type}
  path : List String
  read : Setting → Option Value
  get : Settings → Value

namespace Leaf

/-- a setting in no group -/
def ofSlot (s : Slot Settings) : Leaf :=
  ⟨[s.name], s.read, s.get⟩

/-- a setting in a group, which is a part of the settings of a node -/
def ofGroup {α : Type} (group : String) (part : Settings → α) (s : Slot α) : Leaf :=
  ⟨[group, s.name], s.read, fun x => s.get (part x)⟩

/-- a setting is what is taken for the value that was given, or its default if none was -/
def Holds (l : Leaf) (s : Settings) (given : Option Setting) : Prop :=
  match given with
  | some v => l.read v = some (l.get s)
  | none => l.get s = l.get {}

/-- a value that was given is taken for one of the setting -/
def Takes (l : Leaf) (given : Option Setting) : Prop :=
  ∀ v ∈ given, (l.read v).isSome = true

end Leaf

/-- all settings of a node -/
def leaves : List Leaf :=
  single.map Leaf.ofSlot ++ RpcSettings.slots.map (.ofGroup "rpc" rpc) ++
    HubSettings.slots.map (.ofGroup "hub" hub) ++ ChainParams.slots.map (.ofGroup "chain" chain)

/-- the names of the groups -/
def groups : List String := ["rpc", "hub", "chain"]

/-- every group that is there is a table -/
def Grouped (root : Setting) : Prop :=
  ∀ g ∈ groups, ∀ v ∈ at? [g] root, v.isTable = true

section

variable {α : Type} {slots : List (Slot α)} {base : α} {part : Settings → α} {set : α → Settings → Settings}
variable {entries : List (String × Setting)} {group : String} {s : Settings}

/-- a group that is a table takes what its slots take -/
theorem isSome_group (htable : ∀ v ∈ entries.lookup group, v.isTable = true) :
    (∀ v ∈ entries.lookup group, ((Slot.group group slots base part set).read v).isSome = true) ↔
      ∀ slot ∈ slots, (Leaf.ofGroup group part slot).Takes (at? [group, slot.name] (table entries)) := by
  simp only [Slot.group, Leaf.Takes, Leaf.ofGroup, at?_two, Setting.entries]
  rcases hg : entries.lookup group with _ | v
  · simp
  · obtain ⟨inner, rfl⟩ := isTable_iff.1 (htable v hg)
    simp [isSome_toGroup?_table]

/-- a group that is a table holds what its slots hold -/
theorem holds_group (hl : Slot.Lawful slots) (hbase : part {} = base)
    (htable : ∀ v ∈ entries.lookup group, v.isTable = true) :
    (Slot.group group slots base part set).Holds {} s (entries.lookup group) ↔
      ∀ slot ∈ slots, (Leaf.ofGroup group part slot).Holds s (at? [group, slot.name] (table entries)) := by
  simp only [Slot.group, Leaf.ofGroup, at?_two, Setting.entries]
  rcases hg : entries.lookup group with _ | v
  · simp only [Slot.Holds, Leaf.Holds, Option.bind_none]
    exact ⟨fun h slot _ => by rw [h], fun h => hl.ext _ _ h⟩
  · obtain ⟨inner, rfl⟩ := isTable_iff.1 (htable v hg)
    simp only [Slot.Holds, toGroup?_table hl, Option.bind_some, ← hbase]
    rfl

end

variable {entries : List (String × Setting)} {s : Settings}

theorem forall_leaves {P : Leaf → Prop} : (∀ l ∈ leaves, P l) ↔
    (∀ slot ∈ single, P (.ofSlot slot)) ∧ (∀ slot ∈ RpcSettings.slots, P (.ofGroup "rpc" rpc slot)) ∧
      (∀ slot ∈ HubSettings.slots, P (.ofGroup "hub" hub slot)) ∧
      ∀ slot ∈ ChainParams.slots, P (.ofGroup "chain" chain slot) := by
  simp only [leaves, List.forall_mem_append, List.forall_mem_map, and_assoc]

theorem forall_grouped {P : Slot Settings → Prop} : (∀ slot ∈ grouped, P slot) ↔
    P (.group "rpc" RpcSettings.slots {} rpc fun v s => { s with rpc := v }) ∧
      P (.group "hub" HubSettings.slots {} hub fun v s => { s with hub := v }) ∧
      P (.group "chain" ChainParams.slots {} chain fun v s => { s with chain := v }) := by
  simp only [grouped, List.forall_mem_cons, List.not_mem_nil, false_implies, implies_true, and_true]

theorem isTable_of_grouped (hg : Grouped (table entries)) {g : String} (hin : g ∈ groups) :
    ∀ v ∈ entries.lookup g, v.isTable = true := by
  have htable := hg g hin
  rwa [at?_one] at htable

/-- **The settings of a node are refused only for a value that is not taken for what a setting holds.** -/
theorem isSome_toSettings?_table (hg : Grouped (table entries)) :
    (toGroup? members {} (table entries)).isSome = true ↔ ∀ l ∈ leaves, l.Takes (at? l.path (table entries)) := by
  rw [members_eq, isSome_toGroup?_table, slots, List.forall_mem_append, forall_leaves, forall_grouped]
  refine and_congr ?_ (and_congr ?_ (and_congr ?_ ?_))
  · simp only [Leaf.Takes, Leaf.ofSlot, at?_one, Setting.entries]
  · exact isSome_group (isTable_of_grouped hg (g := "rpc") (by simp [groups]))
  · exact isSome_group (isTable_of_grouped hg (g := "hub") (by simp [groups]))
  · exact isSome_group (isTable_of_grouped hg (g := "chain") (by simp [groups]))

/-- **What the settings of a node are read as, one by one.** -/
theorem toSettings?_table (hg : Grouped (table entries)) :
    toGroup? members {} (table entries) = some s ↔ ∀ l ∈ leaves, l.Holds s (at? l.path (table entries)) := by
  rw [members_eq, toGroup?_table lawful, slots, List.forall_mem_append, forall_leaves, forall_grouped]
  refine and_congr ?_ (and_congr ?_ (and_congr ?_ ?_))
  · simp only [Leaf.Holds, Leaf.ofSlot, at?_one, Setting.entries]
    rfl
  · exact holds_group RpcSettings.lawful rfl (isTable_of_grouped hg (g := "rpc") (by simp [groups]))
  · exact holds_group HubSettings.lawful rfl (isTable_of_grouped hg (g := "hub") (by simp [groups]))
  · exact holds_group ChainParams.lawful rfl (isTable_of_grouped hg (g := "chain") (by simp [groups]))

/-! ## Paths of settings -/

/-- no setting takes a table for a value -/
theorem read_table {l : Leaf} (hl : l ∈ leaves) (entries : List (String × Setting)) : l.read (table entries) = none := by
  revert l
  simp only [leaves, List.forall_mem_append, List.forall_mem_map]
  simp [Leaf.ofSlot, Leaf.ofGroup, single, RpcSettings.slots, HubSettings.slots, ChainParams.slots, toAddress?, toText?,
    toBool?, toOptionalText?, toUInt64?]

/-- so it makes no difference to a setting what its value is laid over -/
theorem read_laidOn {l : Leaf} (hl : l ∈ leaves) (v lower : Setting) : l.read (v.laidOn lower) = l.read v := by
  cases hv : v.isTable with
  | false => rw [laidOn_of_not_table hv]
  | true =>
    obtain ⟨entries, rfl⟩ := isTable_iff.1 hv
    rw [laidOn, read_table hl, read_table hl]

/-- the settings stand next to each other, none of them below another -/
theorem apart_leaves {l m : Leaf} (hl : l ∈ leaves) (hm : m ∈ leaves) :
    l.path = m.path ∨ Apart (steps l.path) m.path := by
  have hall : ∀ p ∈ leaves.map Leaf.path, ∀ q ∈ leaves.map Leaf.path, p = q ∨ Apart (steps p) q := by decide +kernel
  exact hall _ (List.mem_map_of_mem hl) _ (List.mem_map_of_mem hm)

/-- a setting stands at the top or in a group -/
theorem path_cases {l : Leaf} (hl : l ∈ leaves) :
    (∃ n, n ∉ groups ∧ l.path = [n]) ∨ ∃ g ∈ groups, ∃ n, l.path = [g, n] := by
  revert l
  simp [leaves, Leaf.ofSlot, Leaf.ofGroup, single, RpcSettings.slots, HubSettings.slots, ChainParams.slots, groups]

/-- the names on the way to a setting stand for themselves at the top -/
theorem pathOf_name {l : Leaf} (hl : l ∈ leaves) {n : String} (hn : n ∈ l.path.head?) : pathOf n = [.member n] := by
  have hall : ∀ p ∈ leaves.map Leaf.path, ∀ n ∈ p.take 1, pathOf n = [.member n] := by decide +kernel
  obtain ⟨path, hpath⟩ := List.head?_eq_some_iff.1 hn
  refine hall _ (List.mem_map_of_mem hl) n ?_
  rw [hpath]
  exact List.mem_singleton_self n

/-- there is a setting in every group -/
theorem exists_leaf_of_group {g : String} (hg : g ∈ groups) : ∃ l ∈ leaves, ∃ n, l.path = [g, n] := by
  have hall : ∀ g ∈ groups, ∃ p ∈ leaves.map Leaf.path, ∃ n ∈ p, p = [g, n] := by decide +kernel
  obtain ⟨p, hp, n, -, hpath⟩ := hall g hg
  obtain ⟨l, hl, rfl⟩ := List.mem_map.1 hp
  exact ⟨l, hl, n, hpath⟩

/-! ## One more value -/

/-- **A value that is put at a setting in no group is what it holds**, if it is taken for one. -/
theorem toSettings?_put_single (hvalid : (toGroup? members {} (table entries)).isSome = true) {slot : Slot Settings}
    (hs : slot ∈ single) {v : Setting} (hv : v.isTable = false) {x : slot.Value} (hx : slot.read v = some x) :
    ∃ s, toGroup? members {} (put v (steps [slot.name]) (table entries)) = some s ∧ slot.get s = x := by
  simp only [steps, List.map_cons, List.map_nil, put, laidOn_of_not_table hv]
  exact toGroup?_assign lawful (List.mem_append_left _ hs) hx hvalid

/-- **A value that is put at a setting in a group is what it holds**, if it is taken for one. What was there of the group
stays if it was a table, and is lost if it was a list. -/
theorem toSettings?_put_group {α : Type} {group : String} {inner : List (Slot α)} {base : α} {part : Settings → α}
    {set : α → Settings → Settings} (hg : Slot.group group inner base part set ∈ grouped) (hl : Slot.Lawful inner)
    (hvalid : (toGroup? members {} (table entries)).isSome = true) {slot : Slot α} (hs : slot ∈ inner) {v : Setting}
    (hv : v.isTable = false) {x : slot.Value} (hx : slot.read v = some x) :
    ∃ s, toGroup? members {} (put v (steps [group, slot.name]) (table entries)) = some s ∧ slot.get (part s) = x := by
  have hin : Slot.group group inner base part set ∈ slots := List.mem_append_right _ hg
  have hbelow : (toGroup? (inner.map Slot.member) base
      (table ((entries.lookup group).getD nothing).entries)).isSome = true := by
    rcases hbefore : entries.lookup group with _ | (_ | _ | _ | _ | _ | _ | below)
    case some.table =>
      rw [members_eq, isSome_toGroup?_table] at hvalid
      exact hvalid _ hin _ hbefore
    all_goals exact isSome_toGroup?_table.2 fun s _ v hv => by cases hv
  obtain ⟨a, ha, hslot⟩ := toGroup?_assign hl hs hx hbelow
  obtain ⟨s, hsettings, hpart⟩ := toGroup?_assign lawful hin (v := table _) ha hvalid
  have hpart : part s = a := hpart
  refine ⟨s, ?_, hpart.symm ▸ hslot⟩
  simp only [steps, List.map_cons, List.map_nil, put, laidOn_of_not_table hv]
  exact hsettings

end Settings

end ChainFeed
