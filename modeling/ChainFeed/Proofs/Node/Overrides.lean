/-
Settings of a node from all their sources: a variable over the file, the file over the default, one setting at a time.

- `given`: what the sources give for a setting.
- `load_eq_ok_given`, `exists_load_given`: loading takes what is given for each setting, and succeeds if all of it is
  taken.
- `layered`: so no source of one setting changes another, and neither the order of the variables nor that of the keys of
  the file matters.
- `refused_besides`: files that say nothing of any setting and are refused.
-/
import ChainFeed.Proofs.Node.KeyOrder
import Mathlib

namespace ChainFeed.Settings

open Setting

/-! ## Names of variables -/

/-- the letters of the name of the variable of a setting, all of them small -/
def variableLetters (names : List String) : List Char :=
  variableStart.toList ++ ['_', '_'].intercalate (names.map String.toList)

/-- a variable sets what its name says, in letters of either case -/
theorem variablePath?_of_letters {l : Leaf} (hl : l ∈ leaves) {name : String}
    (hname : name.toList.map smallLetter = variableLetters l.path) : variablePath? name = some (steps l.path) := by
  have hall : ∀ p ∈ leaves.map Leaf.path, (if variableStart.toList.isPrefixOf (variableLetters p) then
      some (String.ofList (pointed ((variableLetters p).drop variableStart.length))) else none).map pathOf =
        some (steps p) := by decide +kernel
  rw [variablePath?, variableTarget?, hname]
  exact hall _ (List.mem_map_of_mem hl)

/-! ## What is given -/

/-- a file with a mapping of some entries; where no file is there are none -/
def Contents (file : Option String) (entries : List (Yaml × Yaml)) : Prop :=
  match file with
  | some content => Yaml.parse? content = some (.map entries)
  | none => entries = []

/-- what is given for a setting: the value of its variable, or else the one in the file -/
def given (entries : List (Yaml × Yaml)) (environment : List (String × String)) (names : List String) :
    Option Setting :=
  (variableValue? environment names).or (fileValue? entries names)

variable {file file' : Option String} {entries entries' : List (Yaml × Yaml)}
variable {environment environment' : List (String × String)} {s s' : Settings}

theorem fileValues?_of_contents (hc : Contents file entries) (hp : PlainMapping entries) :
    ∃ values, fileValues? file = some values ∧ ofEntries? [] entries = some values := by
  obtain ⟨values, hv⟩ := exists_values hp
  refine ⟨values, ?_, hv⟩
  rcases file with _ | content
  · rw [show entries = [] from hc, ofEntries?] at hv
    exact hv
  · rw [fileValues?, show Yaml.parse? content = some (.map entries) from hc, Option.bind_some, fileLayer?, ofYaml?, hv]
    rfl

/-- the values of the file and of the variables, laid over each other -/
theorem winner?_given (hp : PlainMapping entries) (hv : LeafVariables environment) {values : List (String × Setting)}
    (hvalues : ofEntries? [] entries = some values) {l : Leaf} (hl : l ∈ leaves) :
    winner? (values ++ environmentLayer environment) l.path = given entries environment l.path := by
  rw [winner?_append, winner?_environmentLayer hv hl, winner?_file hp hvalues hl, given]

theorem fits_all (hp : PlainMapping entries) (hv : LeafVariables environment) {values : List (String × Setting)}
    (hvalues : ofEntries? [] entries = some values) :
    ∀ x ∈ values ++ environmentLayer environment, Fits (pathOf x.1) x.2 :=
  List.forall_mem_append.2 ⟨fits_file hp hvalues, fits_environmentLayer hv⟩

/-- **The settings that are loaded hold what is given for each of them.** -/
theorem load_eq_ok_given (hc : Contents file entries) (hp : PlainMapping entries) (hv : LeafVariables environment) :
    load file environment = .ok s ↔ ∀ l ∈ leaves, l.Holds s (given entries environment l.path) := by
  obtain ⟨values, hfile, hvalues⟩ := fileValues?_of_contents hc hp
  calc load file environment = .ok s
      ↔ toGroup? members {} (stack (values ++ environmentLayer environment)) = some s := by
        rw [load_eq_ok, hfile]
        simp
    _ ↔ ∀ l ∈ leaves, l.Holds s (winner? (values ++ environmentLayer environment) l.path) :=
        toSettings?_stack (fits_all hp hv hvalues)
    _ ↔ ∀ l ∈ leaves, l.Holds s (given entries environment l.path) :=
        forall₂_congr fun l hl => by rw [winner?_given hp hv hvalues hl]

/-- **Settings are loaded if and only if all that is given is taken.** -/
theorem exists_load_given (hc : Contents file entries) (hp : PlainMapping entries) (hv : LeafVariables environment) :
    (∃ s, load file environment = .ok s) ↔ ∀ l ∈ leaves, l.Takes (given entries environment l.path) := by
  obtain ⟨values, hfile, hvalues⟩ := fileValues?_of_contents hc hp
  calc (∃ s, load file environment = .ok s)
      ↔ (toGroup? members {} (stack (values ++ environmentLayer environment))).isSome = true := by
        rw [Option.isSome_iff_exists]
        refine exists_congr fun s => ?_
        rw [load_eq_ok, hfile]
        simp
    _ ↔ ∀ l ∈ leaves, l.Takes (winner? (values ++ environmentLayer environment) l.path) :=
        isSome_toSettings?_stack (fits_all hp hv hvalues)
    _ ↔ ∀ l ∈ leaves, l.Takes (given entries environment l.path) :=
        forall₂_congr fun l hl => by rw [winner?_given hp hv hvalues hl]

/-- loading fails in one way only -/
theorem load_eq_error (hn : ¬∃ s, load file environment = .ok s) : load file environment = .error .unloadable := by
  rcases hl : loaded? file environment with _ | s
  · rw [load_eq, hl]
  · exact absurd ⟨s, by rw [load_eq, hl]⟩ hn

theorem load_congr (hsame : ∀ s, load file environment = .ok s ↔ load file' environment' = .ok s) :
    load file environment = load file' environment' := by
  rcases hl : load file' environment' with e | s
  · have hn : ¬∃ s, load file' environment' = .ok s := by
      rintro ⟨s, hs⟩
      rw [hl] at hs
      cases hs
    rw [load_eq_error fun ⟨s, hs⟩ => hn ⟨s, (hsame s).1 hs⟩, ← hl, load_eq_error hn]
  · exact (hsame s).2 hl

/-! ## Layers -/

/-- a variable over the file, the file over the default -/
structure Layered (file : Option String) (entries : List (Yaml × Yaml)) (environment : List (String × String)) :
    Prop where
  /-- where all that is given is taken, each setting is what is given for it -/
  loads : (∀ l ∈ leaves, l.Takes (given entries environment l.path)) →
    ∃ s, load file environment = .ok s ∧ ∀ l ∈ leaves, l.Holds s (given entries environment l.path)
  /-- what is given for a setting and not taken is refused -/
  refused : ∀ l ∈ leaves, ¬l.Takes (given entries environment l.path) → load file environment = .error .unloadable
  /-- a variable that sets one setting leaves all others as they are -/
  others : ∀ l ∈ leaves, ∀ name v s s', variablePath? name = some (steps l.path) →
    LeafVariables (environment ++ [(name, v)]) → load file environment = .ok s →
    load file (environment ++ [(name, v)]) = .ok s' → ∀ m ∈ leaves, m.path ≠ l.path → m.get s' = m.get s
  variableOrder : ∀ environment', environment.Perm environment' → load file environment' = load file environment
  keyOrder : ∀ file' entries', Contents file' entries' → Yaml.Reordered names (.map entries) (.map entries') →
    load file' environment = load file environment

/-- two settings of one path are the same setting -/
theorem steps_inj {p q : List String} (h : steps p = steps q) : p = q :=
  List.map_injective_iff.2 (fun _ _ h => Step.member.inj h) h

theorem given_concat {name v : String} {path : List String} (hname : variablePath? name = some (steps path))
    {names : List String} (hne : names ≠ path) :
    given entries (environment ++ [(name, v)]) names = given entries environment names := by
  rw [given, given, variableValue?_concat, if_neg, Option.or_none]
  rw [hname]
  exact fun hsame => hne (steps_inj (Option.some.inj hsame)).symm

/-- what one value tells of a setting -/
theorem Leaf.get_eq_of_holds {l : Leaf} {value : Option Setting} (hs : l.Holds s value) (hs' : l.Holds s' value) :
    l.get s' = l.get s := by
  rcases value with _ | v
  · exact hs'.trans hs.symm
  · exact Option.some.inj (hs'.symm.trans hs)

/-- **Settings in layers.** Over the default of each setting lies what the file gives for it, and over that its variable:
if the file is a mapping that can be read, in which no key leads on into a setting, and no setting has two variables. -/
theorem layered (hc : Contents file entries) (hp : PlainMapping entries) (hv : LeafVariables environment) :
    Layered file entries environment where
  loads htakes := by
    obtain ⟨s, hs⟩ := (exists_load_given hc hp hv).2 htakes
    exact ⟨s, hs, (load_eq_ok_given hc hp hv).1 hs⟩
  refused l hl htakes := load_eq_error fun hs => htakes ((exists_load_given hc hp hv).1 hs l hl)
  others l _ name v s s' hname hv' hs hs' m hm hne := by
    have hbefore := (load_eq_ok_given hc hp hv).1 hs m hm
    have hafter := (load_eq_ok_given hc hp hv').1 hs' m hm
    rw [given_concat hname hne] at hafter
    exact Leaf.get_eq_of_holds hbefore hafter
  variableOrder environment' hperm := by
    refine load_congr fun s => ?_
    rw [load_eq_ok_given hc hp hv, load_eq_ok_given hc hp (hv.of_perm hperm)]
    exact forall₂_congr fun l hl => by rw [given, given, variableValue?_of_perm hv hperm hl]
  keyOrder file' entries' hc' hr := by
    refine load_congr fun s => ?_
    rw [load_eq_ok_given hc hp hv, load_eq_ok_given hc' (plainMapping_reordered hr hp) hv]
    refine forall₂_congr fun l hl => Leaf.holds_congr ?_
    rw [given, given]
    rcases variableValue? environment l.path with _ | v
    · exact (fileValue?_reordered hr hl).symm
    · rfl

/-- a file with one group, all of it readable -/
theorem plainMapping_group {g : String} (hg : g ∈ groups) {inner : List (Yaml × Yaml)}
    (hread : (ofYaml? (.map inner)).isSome = true) : PlainMapping [(.scalar (.text g), .map inner)] where
  readable := by
    rw [ofYaml?, Option.isSome_map, Yaml.isSome_ofEntries?, List.forall_mem_singleton]
    exact ⟨rfl, hread⟩
  direct := by
    obtain ⟨l, hl, n, hpath⟩ := exists_leaf_of_group hg
    rw [List.forall_mem_singleton]
    rintro name ⟨⟩
    exact Or.inl (pathOf_name hl (by simp [hpath]))
  grouped := by
    intro g' _ y hy
    obtain ⟨k, hin⟩ := Yaml.mem_of_member? hy
    cases List.mem_singleton.1 hin
    exact ⟨inner, rfl⟩

/-- one variable that sets a setting -/
theorem leafVariables_one {l : Leaf} (hl : l ∈ leaves) {name : String}
    (hname : variablePath? name = some (steps l.path)) (v : String) : LeafVariables [(name, v)] where
  named := by
    rw [List.forall_mem_singleton, hname]
    rintro path ⟨⟩
    exact Or.inl ⟨l, hl, rfl⟩
  once x hx y hy _ _ _ _ := (List.mem_singleton.1 hx).trans (List.mem_singleton.1 hy).symm

/-- a file that sets one setting of a group, and a variable that sets another -/
theorem layered_two : ∃ s, load (some "rpc:\n  url: a\n") [("Blockpulse__Rpc__Timeout_Secs", "7")] = .ok s ∧
    s.rpc.url = "a" ∧ s.rpc.user = none ∧ s.rpc.timeoutSecs = 7 := by
  have hc : Contents (some "rpc:\n  url: a\n")
      [(.scalar (.text "rpc"), .map [(.scalar (.text "url"), .scalar (.text "a"))])] := by
    show Yaml.parse? _ = _
    cbv
  have hl : Leaf.ofGroup "rpc" rpc RpcSettings.slots[3] ∈ leaves := by simp [leaves, RpcSettings.slots]
  have hname : variablePath? "Blockpulse__Rpc__Timeout_Secs" = some (steps ["rpc", "timeout_secs"]) :=
    variablePath?_of_letters hl (by decide +kernel)
  have hlayers := layered hc (plainMapping_group (by simp [groups]) rfl) (leafVariables_one hl hname "7")
  obtain ⟨s, hs, hholds⟩ := hlayers.loads (by simp only [Leaf.Takes]; decide +kernel)
  obtain ⟨-, hrpc, -, -⟩ := forall_leaves.1 hholds
  obtain ⟨hurl, huser, -, htimeout, -⟩ := by
    simpa only [RpcSettings.slots, List.forall_mem_cons, Leaf.ofGroup] using hrpc
  have hvariable : ofVariable "7" = .int 7 := by cbv
  have hset : ∀ n, variableValue? [("Blockpulse__Rpc__Timeout_Secs", "7")] ["rpc", n] =
      if n = "timeout_secs" then some (.int 7) else none := by
    intro n
    by_cases hn : n = "timeout_secs"
    · subst hn
      simp [variableValue?, hname, hvariable]
    · simp [variableValue?, hname, hn, Ne.symm hn, steps]
  refine ⟨s, hs, ?_, ?_, ?_⟩
  · rw [given, hset, show fileValue? _ ["rpc", "url"] = some (.text "a") from rfl] at hurl
    exact (Option.some.inj hurl).symm
  · rw [given, hset, show fileValue? _ ["rpc", "user"] = none from rfl] at huser
    exact huser
  · rw [given, hset] at htimeout
    exact (Option.some.inj htimeout).symm

/-! ## Refused besides -/

/-- a file that says nothing of any setting, and is refused -/
def RefusedBesides (content : String) (entries : List (Yaml × Yaml)) : Prop :=
  Contents (some content) entries ∧ (∀ x ∈ entries, ∀ n ∈ names, x.1.keyText? ≠ some n) ∧
    load (some content) [] = .error .unloadable

theorem load_eq_error_of_contents {content : String} (hc : Contents (some content) entries)
    (hn : (fileLayer? (.map entries)).bind (fun values => toGroup? members {} (stack values)) = none) :
    load (some content) [] = .error .unloadable := by
  have hloaded : loaded? (some content) [] = none := by
    rw [loaded?, fileValues?, show Yaml.parse? content = some (.map entries) from hc, Option.bind_some, ← hn]
    simp [environmentLayer]
  rw [load_eq, hloaded]

/-- **What has nothing to do with any setting can be refused**: an item of a text, or a number that is not finite. -/
theorem refused_besides :
    RefusedBesides "log_level[0]: x\n" [(.scalar (.text "log_level[0]"), .scalar (.text "x"))] ∧
      RefusedBesides "other: .inf\n" [(.scalar (.text "other"), .scalar (.real ".inf"))] := by
  have hitem : Contents (some "log_level[0]: x\n") [(.scalar (.text "log_level[0]"), .scalar (.text "x"))] := by
    show Yaml.parse? _ = _
    cbv
  have hreal : Contents (some "other: .inf\n") [(.scalar (.text "other"), .scalar (.real ".inf"))] := by
    show Yaml.parse? _ = _
    cbv
  refine ⟨⟨hitem, ?_, load_eq_error_of_contents hitem (by cbv)⟩, hreal, ?_, load_eq_error_of_contents hreal (by cbv)⟩
  · rw [List.forall_mem_singleton]
    decide +kernel
  · rw [List.forall_mem_singleton]
    decide +kernel

end ChainFeed.Settings
