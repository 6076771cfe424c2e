/-
What the sources of settings give for each of them: the variables of the environment, and the mapping of a file.

- `variableValue?`, `winner?_environmentLayer`: a setting is given the value of its variable.
- `Yaml.member?`, `lookup_ofEntries?`: the value of a key is what is read of it, the last one if the key is there twice.
- `fileValue?`, `winner?_file`: a setting is given the value at its path in the file.
-/
import ChainFeed.Proofs.Node.Stacks

namespace ChainFeed

/-! ## First finds -/

section

variable {A B : Type} {f : A → Option B} {as bs : List A}

/-- where all finds are the same, the order does not matter -/
theorem findSome?_of_perm (hp : as.Perm bs) (hsame : ∀ a ∈ as, ∀ b ∈ as, (f a).isSome → (f b).isSome → f a = f b) :
    as.findSome? f = bs.findSome? f := by
  rcases ha : as.findSome? f with _ | x
  · refine (List.findSome?_eq_none_iff.2 fun b hb => ?_).symm
    exact List.findSome?_eq_none_iff.1 ha b (hp.mem_iff.2 hb)
  · obtain ⟨a, hin, hx⟩ := List.exists_of_findSome?_eq_some ha
    rcases hb : bs.findSome? f with _ | y
    · rw [List.findSome?_eq_none_iff.1 hb a (hp.mem_iff.1 hin)] at hx
      cases hx
    · obtain ⟨b, hin', hy⟩ := List.exists_of_findSome?_eq_some hb
      rw [← hx, ← hy]
      exact hsame a hin b (hp.mem_iff.2 hin') (by simp [hx]) (by simp [hy])

end

open Setting

namespace Settings

/-! ## Variables -/

/-- variables that set settings, none of them twice, or lead past all of them -/
structure LeafVariables (environment : List (String × String)) : Prop where
  named : ∀ x ∈ environment, ∀ path, variablePath? x.1 = some path →
    (∃ l ∈ leaves, path = steps l.path) ∨ ∀ l ∈ leaves, Apart path l.path
  once : ∀ x ∈ environment, ∀ y ∈ environment, ∀ l ∈ leaves, variablePath? x.1 = some (steps l.path) →
    variablePath? y.1 = some (steps l.path) → x = y

/-- the value of the variable that sets what is at a path -/
def variableValue? (environment : List (String × String)) (names : List String) : Option Setting :=
  environment.findSome? fun (name, v) =>
    if variablePath? name = some (steps names) then some (ofVariable v) else none

variable {environment environment' : List (String × String)}

theorem LeafVariables.of_perm (hv : LeafVariables environment) (hp : environment.Perm environment') :
    LeafVariables environment' where
  named x hx := hv.named x (hp.mem_iff.2 hx)
  once x hx y hy := hv.once x (hp.mem_iff.2 hx) y (hp.mem_iff.2 hy)

/-- the order of the variables does not matter -/
theorem variableValue?_of_perm (hv : LeafVariables environment) (hp : environment.Perm environment') {l : Leaf}
    (hl : l ∈ leaves) : variableValue? environment l.path = variableValue? environment' l.path := by
  refine findSome?_of_perm hp fun x hx y hy hx' hy' => ?_
  have hnamed : ∀ z : String × String, (if variablePath? z.1 = some (steps l.path) then some (ofVariable z.2)
      else none : Option Setting).isSome = true → variablePath? z.1 = some (steps l.path) := by
    intro z hz
    by_contra hne
    rw [if_neg hne] at hz
    cases hz
  rw [hv.once x hx y hy l hl (hnamed x hx') (hnamed y hy')]

theorem variableValue?_concat (environment : List (String × String)) (name v : String) (names : List String) :
    variableValue? (environment ++ [(name, v)]) names = (variableValue? environment names).or
      (if variablePath? name = some (steps names) then some (ofVariable v) else none) := by
  simp [variableValue?, List.findSome?_append]

/-- a single value gives something only at its own path -/
theorem given?_ofVariable (path : List Step) (v : String) (names : List String) :
    given? path (ofVariable v) names = if path = steps names then some (ofVariable v) else none := by
  unfold given?
  split
  · rw [entries_of_not_table (isTable_ofVariable v), List.lookup_nil, ite_self]
  · rfl

/-- what the first of the variables gives that gives anything -/
theorem findSome?_environmentLayer (environment : List (String × String)) (names : List String) :
    ((environmentLayer environment).findSome? fun (name, v) => given? (pathOf name) v names) =
      variableValue? environment names := by
  induction environment with
  | nil => rfl
  | cons x environment ih =>
    obtain ⟨name, v⟩ := x
    have hpath : variablePath? name = (variableTarget? name).map pathOf := rfl
    rw [variableValue?, List.findSome?_cons, ← variableValue?, ← ih, environmentLayer, List.filterMap_cons]
    dsimp only
    rw [hpath]
    rcases variableTarget? name with _ | target
    · rfl
    · simp only [Option.map_some, List.findSome?_cons, given?_ofVariable, Option.some.injEq]
      rfl

/-- **A setting is given the value of its variable.** -/
theorem winner?_environmentLayer (hv : LeafVariables environment) {l : Leaf} (hl : l ∈ leaves) :
    winner? (environmentLayer environment) l.path = variableValue? environment l.path := by
  have hlayer : (environmentLayer environment).reverse = environmentLayer environment.reverse :=
    List.filterMap_reverse.symm
  rw [winner?, hlayer, findSome?_environmentLayer, variableValue?_of_perm hv (List.reverse_perm _).symm hl]

theorem fits_environmentLayer (hv : LeafVariables environment) :
    ∀ x ∈ environmentLayer environment, Fits (pathOf x.1) x.2 := by
  intro x hx
  obtain ⟨⟨name, v⟩, hin, hx⟩ := List.mem_filterMap.1 hx
  obtain ⟨target, htarget, rfl⟩ := Option.map_eq_some_iff.1 hx
  have hpath : variablePath? name = some (pathOf target) := by rw [variablePath?, htarget, Option.map_some]
  rcases hv.named _ hin _ hpath with ⟨l, hl, hpath⟩ | ha
  · dsimp only
    rw [hpath]
    exact .leaf hl _
  · exact .past ha _

end Settings

/-! ## Mappings -/

namespace Yaml

/-- the text of a key -/
def keyText? : Yaml → Option String
  | .scalar s => s.key?
  | _ => none

/-- the entries of a key -/
def entriesOf (n : String) (entries : List (Yaml × Yaml)) : List (Yaml × Yaml) :=
  entries.filter fun x => x.1.keyText? = some n

/-- the value of a key, the last one if the key is there twice -/
def member? (n : String) (entries : List (Yaml × Yaml)) : Option Yaml :=
  (entriesOf n entries).getLast?.map (·.2)

/-- the value at the end of a path of keys -/
def find? : List String → Yaml → Option Yaml
  | [], y => some y
  | n :: path, .map entries => (member? n entries).bind (find? path)
  | _ :: _, _ => none

theorem find?_one (n : String) (entries : List (Yaml × Yaml)) : find? [n] (.map entries) = member? n entries := by
  rw [find?]
  rcases member? n entries with _ | y
  · rfl
  · rw [Option.bind_some, find?]

variable {read values : List (String × Setting)} {entries : List (Yaml × Yaml)} {k y : Yaml} {n : String}

theorem member?_cons (k y : Yaml) (entries : List (Yaml × Yaml)) : member? n ((k, y) :: entries) =
    (member? n entries).or (if k.keyText? = some n then some y else none) := by
  unfold member? entriesOf
  by_cases hk : k.keyText? = some n
  · rw [List.filter_cons_of_pos (by simpa using hk), List.getLast?_cons, if_pos hk]
    generalize entries.filter (fun x => x.1.keyText? = some n) = found
    rcases found.getLast? with _ | x <;> rfl
  · rw [List.filter_cons_of_neg (by simpa using hk), if_neg hk, Option.or_none]

theorem mem_of_member? (hm : member? n entries = some y) : ∃ k, (k, y) ∈ entries := by
  obtain ⟨⟨k, v⟩, hlast, rfl⟩ := Option.map_eq_some_iff.1 hm
  exact ⟨k, List.mem_of_mem_filter (List.mem_of_getLast? hlast)⟩

theorem ofEntries?_cons (k y : Yaml) (entries : List (Yaml × Yaml)) : ofEntries? read ((k, y) :: entries) =
    (ofYaml? y).bind fun v => k.keyText?.bind fun name => ofEntries? (assign name v read) entries := by
  rcases k with s | items | entries
  · rw [ofEntries?]
    rfl
  · rw [ofEntries?]
    · rcases ofYaml? y with _ | v <;> rfl
    · rintro ⟨⟩
    · rintro _ _ _ ⟨⟩
  · rw [ofEntries?]
    · rcases ofYaml? y with _ | v <;> rfl
    · rintro ⟨⟩
    · rintro _ _ _ ⟨⟩

/-- **The value of a name is what is read of the value of the key**, unless it has none. -/
theorem lookup_ofEntries? (hr : ofEntries? read entries = some values) (n : String) : values.lookup n =
    match member? n entries with
    | some y => ofYaml? y
    | none => read.lookup n := by
  induction entries generalizing read with
  | nil =>
    rw [ofEntries?] at hr
    cases hr
    rfl
  | cons entry entries ih =>
    obtain ⟨k, y⟩ := entry
    rw [ofEntries?_cons] at hr
    obtain ⟨v, hv, hr⟩ := Option.bind_eq_some_iff.1 hr
    obtain ⟨name, hname, hr⟩ := Option.bind_eq_some_iff.1 hr
    rw [ih hr, member?_cons]
    rcases member? n entries with _ | y'
    · rw [Option.none_or, hname, lookup_assign]
      by_cases hn : n = name
      · rw [if_pos hn, if_pos (by rw [hn])]
        exact hv.symm
      · rw [if_neg hn, if_neg fun h => hn (Option.some.inj h).symm]
    · rfl

theorem nodup_ofEntries?_from (hn : (namesOf read).Nodup) (hr : ofEntries? read entries = some values) :
    (namesOf values).Nodup := by
  induction entries generalizing read with
  | nil =>
    rw [ofEntries?] at hr
    cases hr
    exact hn
  | cons entry entries ih =>
    obtain ⟨k, y⟩ := entry
    rw [ofEntries?_cons] at hr
    obtain ⟨v, -, hr⟩ := Option.bind_eq_some_iff.1 hr
    obtain ⟨name, -, hr⟩ := Option.bind_eq_some_iff.1 hr
    exact ih (nodup_assign hn name v) hr

/-- no name of a mapping is there twice -/
theorem nodup_ofEntries? (hr : ofEntries? [] entries = some values) : (namesOf values).Nodup :=
  nodup_ofEntries?_from (show (namesOf []).Nodup from List.nodup_nil) hr

/-- every name is the text of a key -/
theorem mem_names_ofEntries? (hr : ofEntries? read entries = some values) (hn : n ∈ namesOf values) :
    n ∈ namesOf read ∨ ∃ x ∈ entries, x.1.keyText? = some n := by
  induction entries generalizing read with
  | nil =>
    rw [ofEntries?] at hr
    cases hr
    exact Or.inl hn
  | cons entry entries ih =>
    obtain ⟨k, y⟩ := entry
    rw [ofEntries?_cons] at hr
    obtain ⟨v, -, hr⟩ := Option.bind_eq_some_iff.1 hr
    obtain ⟨name, hname, hr⟩ := Option.bind_eq_some_iff.1 hr
    rcases ih hr with hin | ⟨x, hx, hkey⟩
    · rcases mem_namesOf_assign.1 hin with rfl | hin
      · exact Or.inr ⟨_, List.mem_cons_self, hname⟩
      · exact Or.inl hin
    · exact Or.inr ⟨x, List.mem_cons_of_mem _ hx, hkey⟩

/-- a mapping is read if all its keys have a text and all its values are read -/
theorem isSome_ofEntries? : (ofEntries? read entries).isSome = true ↔
    ∀ x ∈ entries, x.1.keyText?.isSome = true ∧ (ofYaml? x.2).isSome = true := by
  induction entries generalizing read with
  | nil => simp [ofEntries?]
  | cons entry entries ih =>
    obtain ⟨k, y⟩ := entry
    rw [ofEntries?_cons, List.forall_mem_cons]
    rcases hv : ofYaml? y with _ | v
    · simp
    · rcases hname : k.keyText? with _ | name
      · simp
      · simpa [hname, hv] using ih

theorem isSome_ofItems? {items : List Yaml} :
    (ofItems? items).isSome = true ↔ ∀ y ∈ items, (ofYaml? y).isSome = true := by
  induction items with
  | nil => simp [ofItems?]
  | cons y items ih =>
    rw [ofItems?, List.forall_mem_cons, ← ih]
    rcases ofYaml? y with _ | v
    · simp
    · rcases ofItems? items with _ | vs <;> simp

end Yaml

namespace Settings

/-! ## Files -/

/-- a mapping that can be read, in which the groups are mappings, and no key at the top is a longer path to a setting -/
structure PlainMapping (entries : List (Yaml × Yaml)) : Prop where
  readable : (ofYaml? (.map entries)).isSome = true
  direct : ∀ x ∈ entries, ∀ name, x.1.keyText? = some name →
    pathOf name = [.member name] ∨ ∀ l ∈ leaves, Apart (pathOf name) l.path
  grouped : ∀ g ∈ groups, ∀ y ∈ Yaml.member? g entries, ∃ inner, y = .map inner

/-- the value at a path in a file -/
def fileValue? (entries : List (Yaml × Yaml)) (names : List String) : Option Setting :=
  (Yaml.find? names (.map entries)).bind ofYaml?

variable {entries : List (Yaml × Yaml)} {values : List (String × Setting)}

theorem exists_values (hp : PlainMapping entries) : ∃ values, ofEntries? [] entries = some values := by
  have hread := hp.readable
  rw [ofYaml?, Option.isSome_map] at hread
  exact Option.isSome_iff_exists.1 hread

/-- what has no value in a file is not there -/
theorem member?_eq_none (hv : ofEntries? [] entries = some values) {n : String} (hn : values.lookup n = none) :
    Yaml.member? n entries = none := by
  rw [Yaml.lookup_ofEntries? hv] at hn
  rcases hy : Yaml.member? n entries with _ | y
  · rfl
  · rw [hy] at hn
    obtain ⟨k, hin⟩ := Yaml.mem_of_member? hy
    have hread := (Yaml.isSome_ofEntries?.1 (Option.isSome_iff_exists.2 ⟨_, hv⟩) _ hin).2
    rw [show ofYaml? y = none from hn] at hread
    cases hread

theorem lookup_file (hv : ofEntries? [] entries = some values) (n : String) :
    values.lookup n = (Yaml.member? n entries).bind ofYaml? := by
  rw [Yaml.lookup_ofEntries? hv]
  rcases Yaml.member? n entries with _ | y <;> rfl

/-- a group of a file is read as a table, whose members are read of the members of the group -/
theorem lookup_group (hp : PlainMapping entries) (hv : ofEntries? [] entries = some values) {g : String}
    (hg : g ∈ groups) {v : Setting} (hlookup : values.lookup g = some v) :
    ∃ inner members, Yaml.member? g entries = some (.map inner) ∧ v = table members ∧
      ofEntries? [] inner = some members := by
  rw [lookup_file hv] at hlookup
  obtain ⟨y, hy, hread⟩ := Option.bind_eq_some_iff.1 hlookup
  obtain ⟨inner, rfl⟩ := hp.grouped g hg y hy
  rw [ofYaml?] at hread
  obtain ⟨members, hmembers, rfl⟩ := Option.map_eq_some_iff.1 hread
  exact ⟨inner, members, hy, rfl, hmembers⟩

theorem fits_file (hp : PlainMapping entries) (hv : ofEntries? [] entries = some values) :
    ∀ x ∈ values, Fits (pathOf x.1) x.2 := by
  rintro ⟨name, v⟩ hx
  have hnodup := Yaml.nodup_ofEntries? hv
  obtain ⟨entry, hin, hkey⟩ : ∃ x ∈ entries, x.1.keyText? = some name :=
    (Yaml.mem_names_ofEntries? hv (List.mem_map_of_mem (f := (·.1)) hx)).resolve_left List.not_mem_nil
  rcases hp.direct entry hin name hkey with hpath | hpast
  · dsimp only
    rw [hpath]
    by_cases hgroup : name ∈ groups
    · obtain ⟨inner, members, -, rfl, hmembers⟩ :=
        lookup_group hp hv hgroup (lookup_eq_some_of_mem hnodup hx)
      exact .group hgroup (Yaml.nodup_ofEntries? hmembers)
    · by_cases hleaf : ∃ l ∈ leaves, l.path = [name]
      · obtain ⟨l, hl, hname⟩ := hleaf
        have hfits := Fits.leaf hl v
        rwa [hname] at hfits
      · -- the name of neither a group nor a setting leads past all of them
        refine .past (fun l hl => ?_) v
        rcases path_cases hl with ⟨n, -, hn⟩ | ⟨g, hg, n, hn⟩
        · rw [hn]
          exact Or.inl fun hsame => hleaf ⟨l, hl, hsame ▸ hn⟩
        · rw [hn]
          exact Or.inl fun hsame => hgroup (hsame ▸ hg)
  · exact .past hpast v

/-- among values with different names only the one with the name is found -/
theorem findSome?_lookup {f : String × Setting → Option Setting} {k : Setting → Option Setting} {n : String}
    (hn : (namesOf values).Nodup) (hf : ∀ x ∈ values, f x = if x.1 = n then k x.2 else none) :
    values.reverse.findSome? f = (values.lookup n).bind k := by
  induction values with
  | nil => rfl
  | cons x values ih =>
    obtain ⟨name, v⟩ := x
    obtain ⟨hfresh, hrest⟩ := List.nodup_cons.1 hn
    obtain ⟨hfirst, hf⟩ := List.forall_mem_cons.1 hf
    rw [List.reverse_cons, List.findSome?_append, ih hrest hf, List.findSome?_cons, hfirst, List.lookup_cons]
    by_cases hname : name = n
    · subst hname
      rw [lookup_eq_none_of_not_mem hfresh]
      simp
      rcases k v with _ | w <;> rfl
    · have hne : (n == name) = false := beq_eq_false_iff_ne.2 (Ne.symm hname)
      rw [hne, if_neg hname]
      simp

/-- a name of a file leads to no setting inside a group -/
theorem pathOf_ne_steps (hp : PlainMapping entries) (hv : ofEntries? [] entries = some values) {x : String × Setting}
    (hx : x ∈ values) {l : Leaf} (hl : l ∈ leaves) {g n : String} (hpath : l.path = [g, n]) :
    pathOf x.1 ≠ steps [g, n] := by
  intro hinside
  obtain ⟨entry, hin, hkey⟩ : ∃ e ∈ entries, e.1.keyText? = some x.1 :=
    (Yaml.mem_names_ofEntries? hv (List.mem_map_of_mem (f := (·.1)) hx)).resolve_left List.not_mem_nil
  rcases hp.direct entry hin x.1 hkey with hdirect | hpast
  · rw [hinside] at hdirect
    cases hdirect
  · have ha := hpast l hl
    rw [hinside, hpath] at ha
    exact ha.elim (fun hne => hne rfl) fun ha => ha.elim (fun hne => hne rfl) id

/-- **A setting is given the value at its path in the file.** -/
theorem winner?_file (hp : PlainMapping entries) (hv : ofEntries? [] entries = some values) {l : Leaf}
    (hl : l ∈ leaves) : winner? values l.path = fileValue? entries l.path := by
  have hnodup := Yaml.nodup_ofEntries? hv
  have hname : ∀ (x : String × Setting), ∀ n ∈ l.path.head?, pathOf x.1 = [.member n] ↔ x.1 = n := by
    intro x n hn
    constructor
    · exact eq_of_pathOf
    · rintro rfl
      exact pathOf_name hl hn
  rcases path_cases hl with ⟨n, -, hpath⟩ | ⟨g, hg, n, hpath⟩
  · have hgiven : ∀ x ∈ values, given? (pathOf x.1) x.2 [n] = if x.1 = n then some x.2 else none := by
      intro x _
      have hiff := hname x n (by simp [hpath])
      simp only [given?, steps, List.map_cons, List.map_nil, hiff]
    rw [hpath, winner?, findSome?_lookup hnodup hgiven, Option.bind_fun_some, lookup_file hv, fileValue?,
      Yaml.find?_one]
  · have hgiven : ∀ x ∈ values, given? (pathOf x.1) x.2 [g, n] = if x.1 = g then x.2.entries.lookup n else none := by
      intro x hx
      have hiff := hname x g (by simp [hpath])
      rw [given?, if_neg (pathOf_ne_steps hp hv hx hl hpath)]
      simp only [hiff]
    rw [hpath, winner?, findSome?_lookup (k := fun v => v.entries.lookup n) hnodup hgiven, fileValue?, Yaml.find?]
    rcases hlookup : values.lookup g with _ | v
    · rw [member?_eq_none hv hlookup]
      rfl
    · obtain ⟨inner, members, hinner, rfl, hmembers⟩ := lookup_group hp hv hg hlookup
      rw [hinner, Option.bind_some, Option.bind_some, Yaml.find?_one, Setting.entries, lookup_file hmembers]

end Settings

end ChainFeed
