/-
What loading settings comes to: the values of a file and then those of variables, laid over each other.

- `load_eq_ok`: settings are loaded if the file has values and what they and the variables make is read as settings.
- `stack_concat`, `stack_eq_table`: values are put one after the other, and make a table.
- `read_stack`: if none of them gets in the way of a setting, each setting is given what the last of them gives for it.
- `isSome_toSettings?_stack`, `toSettings?_stack`: what they are read as.
-/
import ChainFeed.Proofs.Node.Leaves
import Mathlib.Data.List.Induction

namespace ChainFeed

namespace Setting

theorem stack_concat (values : List (String × Setting)) (name : String) (v : Setting) :
    stack (values ++ [(name, v)]) = put v (pathOf name) (stack values) := by
  simp [stack, List.foldl_append]

/-- values at the top always make a table -/
theorem stack_eq_table (values : List (String × Setting)) : ∃ entries, stack values = table entries := by
  induction values using List.reverseRecOn with
  | nil => exact ⟨[], rfl⟩
  | append_singleton values value _ =>
    obtain ⟨name, v⟩ := value
    obtain ⟨m, path, hpath⟩ := pathOf_first name
    rw [stack_concat, hpath]
    exact ⟨_, rfl⟩

/-- the path at which a variable sets something, if it does -/
def variablePath? (name : String) : Option (List Step) :=
  (variableTarget? name).map pathOf

/-- what a variable is taken for is a single value -/
theorem isTable_ofVariable (v : String) : (ofVariable v).isTable = false := by
  unfold ofVariable
  dsimp only
  split_ifs
  · rfl
  · rfl
  · split
    · rfl
    · split <;> rfl

/-- a variable that sets something has its value put over all that was there before -/
theorem stack_variable {name : String} {path : List Step} (hn : variablePath? name = some path)
    (values : List (String × Setting)) (environment : List (String × String)) (v : String) :
    stack (values ++ environmentLayer (environment ++ [(name, v)])) =
      put (ofVariable v) path (stack (values ++ environmentLayer environment)) := by
  obtain ⟨target, htarget, rfl⟩ := Option.map_eq_some_iff.1 hn
  rw [← stack_concat, List.append_assoc]
  simp [environmentLayer, List.filterMap_append, htarget]

end Setting

open Setting

namespace Settings

/-! ## Values on top of each other -/

/-- a value at a path that leads to a setting, to a group if the value is a table, or past all settings -/
inductive Fits : List Step → Setting → Prop
  | leaf {l : Leaf} (hl : l ∈ leaves) (v : Setting) : Fits (steps l.path) v
  | group {g : String} (hg : g ∈ groups) {entries : List (String × Setting)} (hn : (namesOf entries).Nodup) :
      Fits [.member g] (table entries)
  | past {path : List Step} (ha : ∀ l ∈ leaves, Apart path l.path) (v : Setting) : Fits path v

/-- what a value at a path gives for a setting: itself, or its member if it is the group of the setting -/
def given? (path : List Step) (v : Setting) : List String → Option Setting
  | [g, n] => if path = steps [g, n] then some v else if path = [.member g] then v.entries.lookup n else none
  | names => if path = steps names then some v else none

theorem given?_self (names : List String) (v : Setting) : given? (steps names) v names = some v := by
  unfold given?
  split <;> rw [if_pos rfl]

/-- a value at a path that leads elsewhere gives nothing -/
theorem given?_of_apart {path : List Step} {names : List String} (ha : Apart path names) (v : Setting) :
    given? path v names = none := by
  have hself : ∀ p : List String, ¬Apart (steps p) p := by
    intro p
    induction p with
    | nil => exact id
    | cons n p ih => exact fun h => h.elim (fun hne => hne rfl) ih
  have hne : path ≠ steps names := by
    rintro rfl
    exact hself names ha
  unfold given?
  split
  · rw [if_neg hne, if_neg]
    rintro rfl
    exact ha.elim (fun hne => hne rfl) id
  · rw [if_neg hne]

variable {path : List Step} {v root : Setting}

theorem grouped_put_member {m : String} (hr : Grouped root)
    (ht : m ∈ groups → ∀ lower, (put v path lower).isTable = true) : Grouped (put v (.member m :: path) root) := by
  intro g hg w hw
  rw [at?_one, put, entries] at hw
  by_cases hm : g = m
  · subst hm
    rw [lookup_assign_self] at hw
    cases hw
    exact ht hg _
  · rw [lookup_assign_of_ne hm, ← at?_one] at hw
    exact hr g hg w hw

/-- what fits keeps every group a table -/
theorem grouped_put (hf : Fits path v) (hr : Grouped root) : Grouped (put v path root) := by
  cases hf with
  | leaf hl =>
    rcases path_cases hl with ⟨n, hn, hpath⟩ | ⟨g, -, n, hpath⟩
    · rw [hpath]
      exact grouped_put_member hr fun hg => absurd hg hn
    · rw [hpath]
      exact grouped_put_member hr fun _ _ => rfl
  | group => exact grouped_put_member hr fun _ _ => rfl
  | past ha =>
    -- a path into a group goes on to another member of it
    obtain ⟨l, hl, n, hpath⟩ := exists_leaf_of_group (g := "rpc") (by simp [groups])
    have hfirst := ha l hl
    rw [hpath] at hfirst
    rcases path with _ | ⟨m | _, path⟩
    · cases hfirst
    · refine grouped_put_member hr fun hg lower => ?_
      obtain ⟨l', hl', n', hpath'⟩ := exists_leaf_of_group hg
      have hinside := ha l' hl'
      rw [hpath'] at hinside
      rcases path with _ | ⟨_ | _, path⟩
      · exact (hinside.elim (fun hne => hne rfl) id).elim
      · rfl
      · exact (hinside.elim (fun hne => hne rfl) id).elim
    · cases hfirst

/-- **One value more.** A setting is given what the value gives for it, or else what it was given before. -/
theorem read_put (hf : Fits path v) (root : Setting) {l : Leaf} (hl : l ∈ leaves) :
    (at? l.path (put v path root)).map l.read = ((given? path v l.path).or (at? l.path root)).map l.read := by
  have hapart : Apart path l.path →
      (at? l.path (put v path root)).map l.read = ((given? path v l.path).or (at? l.path root)).map l.read := by
    intro ha
    rw [at?_put_apart ha, given?_of_apart ha, Option.none_or]
  cases hf with
  | leaf hm =>
    rename_i m
    rcases apart_leaves hm hl with hsame | ha
    · rw [hsame, at?_put, given?_self, Option.some_or, Option.map_some, Option.map_some, read_laidOn hl]
    · exact hapart ha
  | @group g hg entries hn =>
    rcases path_cases hl with ⟨n, hout, hpath⟩ | ⟨g', -, n, hpath⟩
    · refine hapart ?_
      rw [hpath]
      exact Or.inl fun hsame => hout (hsame ▸ hg)
    · by_cases hsame : g = g'
      · subst hsame
        rw [hpath, at?_put_table hn, given?, if_neg (by simp [steps]), if_pos rfl]
        rcases hlookup : entries.lookup n with _ | w
        · rw [show (table entries).entries.lookup n = none from hlookup, Option.none_or]
        · rw [show (table entries).entries.lookup n = some w from hlookup, Option.some_or, Option.map_some,
            Option.map_some, read_laidOn hl]
      · refine hapart ?_
        rw [hpath]
        exact Or.inl hsame
  | past ha => exact hapart (ha l hl)

/-- what the last of the values gives that gives anything -/
def winner? (values : List (String × Setting)) (names : List String) : Option Setting :=
  values.reverse.findSome? fun (name, v) => given? (pathOf name) v names

theorem winner?_concat (values : List (String × Setting)) (name : String) (v : Setting) (names : List String) :
    winner? (values ++ [(name, v)]) names = (given? (pathOf name) v names).or (winner? values names) := by
  simp only [winner?, List.reverse_append, List.reverse_cons, List.reverse_nil, List.nil_append,
    List.singleton_append, List.findSome?_cons]
  rcases given? (pathOf name) v names with _ | w <;> rfl

theorem winner?_append (lower upper : List (String × Setting)) (names : List String) :
    winner? (lower ++ upper) names = (winner? upper names).or (winner? lower names) := by
  simp only [winner?, List.reverse_append, List.findSome?_append]

/-- **The last value that gives anything for a setting wins.** -/
theorem read_stack {values : List (String × Setting)} (hf : ∀ x ∈ values, Fits (pathOf x.1) x.2) :
    Grouped (stack values) ∧
      ∀ l ∈ leaves, (at? l.path (stack values)).map l.read = (winner? values l.path).map l.read := by
  induction values using List.reverseRecOn with
  | nil =>
    constructor
    · intro g _ v hv
      rw [at?_one] at hv
      cases hv
    · intro l hl
      rcases path_cases hl with ⟨n, -, hpath⟩ | ⟨g, -, n, hpath⟩ <;> rw [hpath] <;> rfl
  | append_singleton values value ih =>
    obtain ⟨name, v⟩ := value
    obtain ⟨hbefore, hlast⟩ := List.forall_mem_append.1 hf
    obtain ⟨hgrouped, hread⟩ := ih hbefore
    have hfits : Fits (pathOf name) v := hlast _ (List.mem_singleton_self _)
    rw [stack_concat]
    refine ⟨grouped_put hfits hgrouped, fun l hl => ?_⟩
    rw [winner?_concat, read_put hfits _ hl]
    rcases given? (pathOf name) v l.path with _ | w
    · rw [Option.none_or, Option.none_or, hread l hl]
    · rfl

/-- what a setting holds is told by what is taken for the value that was given -/
theorem Leaf.holds_congr {l : Leaf} {s : Settings} {a b : Option Setting} (hread : a.map l.read = b.map l.read) :
    l.Holds s a ↔ l.Holds s b := by
  rcases a with _ | a <;> rcases b with _ | b
  · exact Iff.rfl
  · cases hread
  · cases hread
  · have hsame : l.read a = l.read b := Option.some.inj hread
    simp only [Leaf.Holds, hsame]

theorem Leaf.takes_congr {l : Leaf} {a b : Option Setting} (hread : a.map l.read = b.map l.read) :
    l.Takes a ↔ l.Takes b := by
  rcases a with _ | a <;> rcases b with _ | b
  · exact Iff.rfl
  · cases hread
  · cases hread
  · have hsame : l.read a = l.read b := Option.some.inj hread
    simp only [Leaf.Takes, Option.mem_some_iff, forall_eq', hsame]

variable {values : List (String × Setting)}

/-- **Values on top of each other are refused only for one that wins** and is not taken for what its setting holds. -/
theorem isSome_toSettings?_stack (hf : ∀ x ∈ values, Fits (pathOf x.1) x.2) :
    (toGroup? members {} (stack values)).isSome = true ↔ ∀ l ∈ leaves, l.Takes (winner? values l.path) := by
  obtain ⟨hgrouped, hread⟩ := read_stack hf
  obtain ⟨entries, hentries⟩ := stack_eq_table values
  rw [hentries] at hgrouped hread ⊢
  rw [isSome_toSettings?_table hgrouped]
  exact forall₂_congr fun l hl => Leaf.takes_congr (hread l hl)

/-- **What values on top of each other are read as, one by one.** -/
theorem toSettings?_stack (hf : ∀ x ∈ values, Fits (pathOf x.1) x.2) {s : Settings} :
    toGroup? members {} (stack values) = some s ↔ ∀ l ∈ leaves, l.Holds s (winner? values l.path) := by
  obtain ⟨hgrouped, hread⟩ := read_stack hf
  obtain ⟨entries, hentries⟩ := stack_eq_table values
  rw [hentries] at hgrouped hread ⊢
  rw [toSettings?_table hgrouped]
  exact forall₂_congr fun l hl => Leaf.holds_congr (hread l hl)

/-! ## Loading -/

/-- the values that a file gives, if it can be read; without a file there are none -/
def fileValues? (file : Option String) : Option (List (String × Setting)) :=
  match file with
  | some content => (Yaml.parse? content).bind fileLayer?
  | none => some []

/-- what the file and the variables give, taken for settings -/
def loaded? (file : Option String) (environment : List (String × String)) : Option Settings :=
  (fileValues? file).bind fun values =>
    (stack (values ++ environmentLayer environment)).toGroup? members {}

theorem load_eq (file : Option String) (environment : List (String × String)) :
    load file environment = match loaded? file environment with
      | some s => .ok s
      | none => .error .unloadable := by
  rcases file with _ | content
  · rfl
  · have hloaded : loaded? (some content) environment =
        (Yaml.parse? content).bind fun root => ofSources? (some root) environment := Option.bind_assoc ..
    rw [hloaded]
    rfl

/-- **Settings are loaded if the file has values and all that is given is taken for settings.** -/
theorem load_eq_ok {file : Option String} {environment : List (String × String)} {s : Settings} :
    load file environment = .ok s ↔ ∃ values, fileValues? file = some values ∧
      (stack (values ++ environmentLayer environment)).toGroup? members {} = some s := by
  rw [load_eq, ← Option.bind_eq_some_iff, ← loaded?]
  rcases loaded? file environment with _ | s'
  · simp
  · simp

end Settings

end ChainFeed
