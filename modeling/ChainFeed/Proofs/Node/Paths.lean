/-
What is found at the end of a path when values have been laid over each other.

- `at?_put`: a value that is put at a path is found there, laid over what was there before.
- `at?_put_apart`: at a path that leads elsewhere everything stays.
- `at?_put_table`: a table that is put at a path gives the members that it has, and leaves the others.
- `pathOf_first`, `eq_of_pathOf`: every name at the top leads to a member first, and one that leads to a member only is
  the name of it.
-/
import ChainFeed.Node.Layers
import Mathlib.Data.List.Basic

namespace ChainFeed.Setting

/-! ## Tables -/

/-- the value of a name, unless it is the one that has just got one, is what it was -/
theorem lookup_assign (name n : String) (v : Setting) (entries : List (String × Setting)) :
    (assign name v entries).lookup n = if n = name then some v else entries.lookup n := by
  induction entries with
  | nil =>
    rw [assign, List.lookup_cons]
    by_cases hn : n = name
    · simp [hn]
    · have hne : (n == name) = false := by simpa using hn
      rw [hne, if_neg hn]
  | cons entry rest ih =>
    obtain ⟨m, w⟩ := entry
    rw [assign]
    by_cases hm : m = name
    · subst hm
      rw [if_pos rfl, List.lookup_cons, List.lookup_cons]
      by_cases hn : n = m
      · simp [hn]
      · have hne : (n == m) = false := by simpa using hn
        rw [hne, if_neg hn]
    · rw [if_neg hm, List.lookup_cons, List.lookup_cons, ih]
      by_cases hn : n = m
      · simp [hn, hm]
      · have hne : (n == m) = false := by simpa using hn
        rw [hne]

@[simp] theorem lookup_assign_self (name : String) (v : Setting) (entries : List (String × Setting)) :
    (assign name v entries).lookup name = some v := by
  rw [lookup_assign, if_pos rfl]

theorem lookup_assign_of_ne {name n : String} (hne : n ≠ name) (v : Setting) (entries : List (String × Setting)) :
    (assign name v entries).lookup n = entries.lookup n := by
  rw [lookup_assign, if_neg hne]

/-- the names of a table -/
def namesOf (entries : List (String × Setting)) : List String :=
  entries.map (·.1)

theorem mem_namesOf_assign {name n : String} {v : Setting} {entries : List (String × Setting)} :
    n ∈ namesOf (assign name v entries) ↔ n = name ∨ n ∈ namesOf entries := by
  induction entries with
  | nil => simp [assign, namesOf]
  | cons entry rest ih =>
    obtain ⟨m, w⟩ := entry
    rw [assign]
    split_ifs with hm
    · subst hm
      simp [namesOf]
    · simp only [namesOf, List.map_cons, List.mem_cons] at ih ⊢
      rw [ih]
      tauto

theorem nodup_assign {entries : List (String × Setting)} (hn : (namesOf entries).Nodup) (name : String) (v : Setting) :
    (namesOf (assign name v entries)).Nodup := by
  induction entries with
  | nil => simp [assign, namesOf]
  | cons entry rest ih =>
    obtain ⟨m, w⟩ := entry
    obtain ⟨hfresh, hrest⟩ := List.nodup_cons.1 hn
    rw [assign]
    split_ifs with hm
    · exact hn
    · refine List.nodup_cons.2 ⟨fun hin => ?_, ih hrest⟩
      exact (mem_namesOf_assign.1 hin).elim hm hfresh

theorem lookup_eq_none_of_not_mem {n : String} {entries : List (String × Setting)} (hn : n ∉ namesOf entries) :
    entries.lookup n = none := by
  rw [List.lookup_eq_none_iff]
  intro entry hin
  have hne : n ≠ entry.1 := fun h => hn (h ▸ List.mem_map_of_mem hin)
  simpa using hne

theorem lookup_eq_some_of_mem {n : String} {v : Setting} {entries : List (String × Setting)}
    (hn : (namesOf entries).Nodup) (hin : (n, v) ∈ entries) : entries.lookup n = some v := by
  induction entries with
  | nil => cases hin
  | cons entry rest ih =>
    obtain ⟨m, w⟩ := entry
    obtain ⟨hfresh, hrest⟩ := List.nodup_cons.1 hn
    rw [List.lookup_cons]
    rcases List.mem_cons.1 hin with hsame | hlater
    · cases hsame
      simp
    · have hnamed : n ∈ namesOf rest := List.mem_map_of_mem (f := (·.1)) hlater
      have hne : n ≠ m := fun hsame => hfresh (hsame ▸ hnamed)
      rw [beq_eq_false_iff_ne.2 hne]
      exact ih hrest hlater

/-- whether a value is a table -/
def isTable : Setting → Bool
  | table _ => true
  | _ => false

theorem isTable_iff {v : Setting} : v.isTable = true ↔ ∃ entries, v = table entries := by
  cases v <;> simp [isTable]

theorem entries_of_not_table {v : Setting} (hv : v.isTable = false) : v.entries = [] := by
  cases v with
  | table => cases hv
  | _ => rfl

/-- a value that is no table takes the place of what was there -/
theorem laidOn_of_not_table {v : Setting} (hv : v.isTable = false) (lower : Setting) : v.laidOn lower = v := by
  cases v with
  | table => cases hv
  | _ => rfl

/-- a table that is laid over another gives the values that it has, over those of the other one -/
theorem lookup_entriesLaidOn {upper : List (String × Setting)} (hn : (namesOf upper).Nodup)
    (lower : List (String × Setting)) (n : String) : (entriesLaidOn upper lower).lookup n =
      match upper.lookup n with
      | some v => some (v.laidOn ((lower.lookup n).getD nothing))
      | none => lower.lookup n := by
  induction upper generalizing lower with
  | nil => rfl
  | cons entry rest ih =>
    obtain ⟨m, v⟩ := entry
    obtain ⟨hfresh, hrest⟩ := List.nodup_cons.1 hn
    rw [entriesLaidOn, ih hrest, List.lookup_cons]
    by_cases hm : n = m
    · subst hm
      rw [lookup_eq_none_of_not_mem hfresh, lookup_assign_self]
      simp
    · have hne : (n == m) = false := by simpa using hm
      rw [hne, lookup_assign_of_ne hm]

/-! ## Paths -/

/-- what is at the end of a path of names -/
def at? : List String → Setting → Option Setting
  | [], s => some s
  | n :: path, s => (s.entries.lookup n).bind (at? path)

theorem at?_one (n : String) (s : Setting) : at? [n] s = s.entries.lookup n := by
  rw [at?]
  rcases s.entries.lookup n with _ | v <;> rfl

theorem at?_two (group n : String) (s : Setting) :
    at? [group, n] s = (s.entries.lookup group).bind fun v => v.entries.lookup n := by
  rw [at?]
  exact congrArg _ (funext (at?_one n))

/-- a path that starts at nothing leads to nothing, unless it ends there -/
theorem at?_member (n : String) (path : List String) (s : Setting) :
    (at? (n :: path) s).getD nothing = (at? path ((s.entries.lookup n).getD nothing)).getD nothing := by
  rw [at?]
  rcases s.entries.lookup n with _ | below
  · rcases path with _ | ⟨m, path⟩ <;> rfl
  · rfl

/-- the steps of a path of names -/
def steps (path : List String) : List Step :=
  path.map .member

/-- two paths part at a table: neither leads to something on the other one -/
def Apart : List Step → List String → Prop
  | .member m :: path, n :: names => m ≠ n ∨ Apart path names
  | _, _ => False

instance decidableApart : (path : List Step) → (names : List String) → Decidable (Apart path names)
  | .member m :: path, n :: names => @instDecidableOr (m ≠ n) _ _ (decidableApart path names)
  | .item _ :: _, _ => isFalse id
  | [], _ => isFalse id
  | .member _ :: _, [] => isFalse id

variable {path : List Step} {names : List String}

theorem at?_nothing_of_apart (ha : Apart path names) : at? names nothing = none := by
  rcases names with _ | ⟨n, names⟩
  · rcases path with _ | ⟨_ | _, path⟩ <;> cases ha
  · rfl

/-- **What is put at a path is found there**, laid over what was there before. -/
theorem at?_put (v : Setting) (names : List String) (s : Setting) :
    at? names (put v (steps names) s) = some (v.laidOn ((at? names s).getD nothing)) := by
  induction names generalizing s with
  | nil => rfl
  | cons n names ih =>
    rw [at?_member, ← ih]
    simp only [steps, List.map_cons, put, at?, entries, lookup_assign_self, Option.bind_some]

/-- **Where another path leads, everything stays.** -/
theorem at?_put_apart (ha : Apart path names) (v s : Setting) : at? names (put v path s) = at? names s := by
  induction names generalizing path s with
  | nil => rcases path with _ | ⟨_ | _, path⟩ <;> cases ha
  | cons n names ih =>
    rcases path with _ | ⟨m | i, path⟩
    · cases ha
    · rw [put, at?, at?, entries]
      by_cases hm : n = m
      · subst hm
        have hrest : Apart path names := ha.resolve_left (by simp)
        rw [lookup_assign_self, Option.bind_some, ih hrest]
        rcases s.entries.lookup n with _ | below
        · exact at?_nothing_of_apart hrest
        · rfl
      · rw [lookup_assign_of_ne hm]
    · cases ha

/-- **A table that is put at a name gives the members that it has**, and leaves those that were there. -/
theorem at?_put_table {upper : List (String × Setting)} (hn : (namesOf upper).Nodup) (group n : String)
    (s : Setting) : at? [group, n] (put (table upper) [.member group] s) =
      match upper.lookup n with
      | some v => some (v.laidOn ((at? [group, n] s).getD nothing))
      | none => at? [group, n] s := by
  have hlower : at? [group, n] s = ((s.entries.lookup group).getD nothing).entries.lookup n := by
    rw [at?_two]
    rcases s.entries.lookup group with _ | lower <;> rfl
  rw [hlower, put, at?, entries, lookup_assign_self, Option.bind_some, at?_one, put, laidOn, entries,
    lookup_entriesLaidOn hn]

/-! ## Names at the top -/

/-- a path goes on after the name that it begins with -/
theorem readSteps?_member {fuel : Nat} {cs : List Char} {path : List Step}
    (hr : readSteps? (fuel + 1) ('.' :: cs) = some path) :
    ∃ rest, path = .member (String.ofList (cs.takeWhile isPathChar)) :: rest ∧
      readSteps? fuel (cs.drop (cs.takeWhile isPathChar).length) = some rest := by
  rw [readSteps?] at hr
  simp only [Option.bind_eq_bind] at hr
  split_ifs at hr with hempty
  · cases hr
  · obtain ⟨rest, hrest, hpath⟩ := Option.bind_eq_some_iff.1 hr
    exact ⟨rest, (Option.some.inj hpath).symm, hrest⟩

/-- only the end of a text gives no step -/
theorem eq_nil_of_readSteps? {fuel : Nat} {cs : List Char} (hr : readSteps? fuel cs = some []) : cs = [] := by
  unfold readSteps? at hr
  split at hr
  · rfl
  · simp only [Option.bind_eq_bind] at hr
    split_ifs at hr
    · cases hr
    · obtain ⟨rest, -, hrest⟩ := Option.bind_eq_some_iff.1 hr
      cases hrest
  · simp only [Option.bind_eq_bind] at hr
    split_ifs at hr
    · cases hr
    · obtain ⟨index, -, hindex⟩ := Option.bind_eq_some_iff.1 hr
      obtain ⟨rest, -, hrest⟩ := Option.bind_eq_some_iff.1 hindex
      cases hrest
  · cases hr

/-- every name at the top leads to a member first -/
theorem pathOf_first (name : String) : ∃ m path, pathOf name = .member m :: path := by
  unfold pathOf
  rcases hr : readSteps? (name.length + 1) ('.' :: name.toList) with _ | path
  · exact ⟨name, [], rfl⟩
  · obtain ⟨rest, rfl, -⟩ := readSteps?_member hr
    exact ⟨_, rest, rfl⟩

/-- a name that leads to a member at the top, and no further, is the name of it -/
theorem eq_of_pathOf {name m : String} (hp : pathOf name = [.member m]) : name = m := by
  unfold pathOf at hp
  rcases hr : readSteps? (name.length + 1) ('.' :: name.toList) with _ | path
  · rw [hr] at hp
    cases hp
    rfl
  · obtain ⟨rest, rfl, hrest⟩ := readSteps?_member hr
    rw [hr, Option.getD_some] at hp
    obtain ⟨hm, rfl⟩ := List.cons.inj hp
    -- nothing is left after the name, so it is all there is
    have hlong := List.drop_eq_nil_iff.1 (eq_nil_of_readSteps? hrest)
    rw [(List.takeWhile_prefix isPathChar).eq_of_length_le hlong, String.ofList_toList] at hm
    exact Step.member.inj hm

end ChainFeed.Setting
