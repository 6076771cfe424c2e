/-
The order of the keys in the mapping of a file.

- `Yaml.Reordered`, `reordered_of_perm`: entries of different keys trade places, at any depth.
- `find?_reordered`: whatever does not depend on the order of a value does not for the value at the end of a path.
- `fileValue?_reordered`: so what a file gives for a setting does not depend on the order of its keys.
-/
import ChainFeed.Proofs.Node.Sources

namespace ChainFeed

open Setting

namespace Yaml

/-- the same value with entries of mappings in another order, at any depth; those of one key that is among the names
stay in their order -/
inductive Reordered (names : List String) : Yaml → Yaml → Prop
  | refl (y : Yaml) : Reordered names y y
  | trans {y y' y'' : Yaml} (first : Reordered names y y') (second : Reordered names y' y'') : Reordered names y y''
  | swap {k k' : Yaml} (differ : ∀ n ∈ names, k.keyText? = some n → k'.keyText? ≠ some n) (v v' : Yaml)
      (front back : List (Yaml × Yaml)) :
      Reordered names (.map (front ++ (k, v) :: (k', v') :: back)) (.map (front ++ (k', v') :: (k, v) :: back))
  | entry {v v' : Yaml} (value : Reordered names v v') (k : Yaml) (front back : List (Yaml × Yaml)) :
      Reordered names (.map (front ++ (k, v) :: back)) (.map (front ++ (k, v') :: back))
  | item {v v' : Yaml} (value : Reordered names v v') (front back : List Yaml) :
      Reordered names (.list (front ++ v :: back)) (.list (front ++ v' :: back))

variable {names : List String} {y y' : Yaml} {entries entries' : List (Yaml × Yaml)}

/-- where no name is there twice, the entries can be in any order -/
theorem reordered_of_perm (hp : entries.Perm entries')
    (honce : entries.Pairwise fun a b => ∀ n ∈ names, a.1.keyText? = some n → b.1.keyText? ≠ some n)
    (front : List (Yaml × Yaml)) : Reordered names (.map (front ++ entries)) (.map (front ++ entries')) := by
  induction hp generalizing front with
  | nil => exact .refl _
  | cons x _ ih =>
    have hrest := ih (List.pairwise_cons.1 honce).2 (front ++ [x])
    rwa [List.append_assoc, List.append_assoc] at hrest
  | swap x y rest => exact .swap ((List.pairwise_cons.1 honce).1 x List.mem_cons_self) y.2 x.2 front rest
  | trans hfirst _ ih ih' =>
    have hsymm : ∀ {a b : Yaml × Yaml}, (∀ n ∈ names, a.1.keyText? = some n → b.1.keyText? ≠ some n) →
        ∀ n ∈ names, b.1.keyText? = some n → a.1.keyText? ≠ some n := fun h n hn hb ha => h n hn ha hb
    exact (ih honce front).trans (ih' ((hfirst.pairwise_iff hsymm).1 honce) front)

theorem member?_append (n : String) (xs ys : List (Yaml × Yaml)) :
    member? n (xs ++ ys) = (member? n ys).or (member? n xs) := by
  induction xs with
  | nil => rw [List.nil_append, show member? n [] = none from rfl, Option.or_none]
  | cons x xs ih => rw [List.cons_append, member?_cons, ih, member?_cons, Option.or_assoc]

/-- what is there of a name is the same, up to the order within -/
theorem member?_swap {k k' : Yaml} {n : String} (hdiffer : k.keyText? = some n → k'.keyText? ≠ some n) (v v' : Yaml)
    (front back : List (Yaml × Yaml)) : member? n (front ++ (k, v) :: (k', v') :: back) =
      member? n (front ++ (k', v') :: (k, v) :: back) := by
  simp only [member?_append, member?_cons, Option.or_assoc]
  by_cases hk : k.keyText? = some n
  · rw [if_neg (hdiffer hk), Option.none_or, Option.none_or]
  · rw [if_neg hk, Option.none_or, Option.none_or]

/-- whatever does not depend on the order of a value does not for the value at the end of a path -/
theorem find?_reordered {B : Type} {f : Yaml → B} (hf : ∀ {y y'}, Reordered names y y' → f y = f y')
    (hr : Reordered names y y') {path : List String} (hpath : ∀ n ∈ path, n ∈ names) :
    (find? path y).map f = (find? path y').map f := by
  induction hr generalizing path with
  | refl => rfl
  | trans _ _ ih ih' => rw [ih hpath, ih' hpath]
  | swap hdiffer v v' front back =>
    rcases path with _ | ⟨n, path⟩
    · exact congrArg some (hf (.swap hdiffer v v' front back))
    · rw [find?, find?, member?_swap (hdiffer n (hpath n List.mem_cons_self))]
  | @entry v v' hv k front back ih =>
    rcases path with _ | ⟨n, path⟩
    · exact congrArg some (hf (.entry hv k front back))
    · rw [find?, find?, member?_append, member?_append, member?_cons, member?_cons]
      rcases member? n back with _ | w
      · split_ifs
        · exact ih fun m hm => hpath m (List.mem_cons_of_mem _ hm)
        · rfl
      · rfl
  | item hv front back ih =>
    rcases path with _ | ⟨n, path⟩
    · exact congrArg some (hf (.item hv front back))
    · rfl

/-- the keys of a mapping -/
def keysOf : Yaml → List Yaml
  | .map entries => entries.map (·.1)
  | _ => []

def isMapping : Yaml → Bool
  | .map _ => true
  | _ => false

theorem isMapping_iff : y.isMapping = true ↔ ∃ entries, y = .map entries := by
  cases y <;> simp [isMapping]

theorem isMapping_reordered (hr : Reordered names y y') : y.isMapping = y'.isMapping := by
  induction hr with
  | trans _ _ ih ih' => rw [ih, ih']
  | _ => rfl

theorem keysOf_reordered (hr : Reordered names y y') : y.keysOf.Perm y'.keysOf := by
  induction hr with
  | refl => exact .refl _
  | trans _ _ ih ih' => exact ih.trans ih'
  | swap =>
    simp only [keysOf, List.map_append, List.map_cons]
    exact .append_left _ (.swap ..)
  | entry => simp only [keysOf, List.map_append, List.map_cons, List.Perm.refl]
  | item => exact .refl _

/-- whether a value can be read -/
theorem isSome_ofYaml?_reordered (hr : Reordered names y y') : (ofYaml? y).isSome = (ofYaml? y').isSome := by
  rw [Bool.eq_iff_iff]
  induction hr with
  | refl => exact Iff.rfl
  | trans _ _ ih ih' => exact ih.trans ih'
  | swap =>
    simp only [ofYaml?, Option.isSome_map, isSome_ofEntries?, List.forall_mem_append, List.forall_mem_cons]
    rw [and_left_comm (a := _ ∧ _) (b := _ ∧ _)]
  | entry _ _ _ _ ih =>
    simp only [ofYaml?, Option.isSome_map, isSome_ofEntries?, List.forall_mem_append, List.forall_mem_cons, ih]
  | item _ _ _ ih =>
    simp only [ofYaml?, Option.isSome_map, isSome_ofItems?, List.forall_mem_append, List.forall_mem_cons, ih]

/-- a reading that takes neither lists nor tables does not depend on the order -/
theorem read_reordered {B : Type} {f : Setting → Option B} (hlist : ∀ items, f (.list items) = none)
    (htable : ∀ entries, f (table entries) = none) (hr : Reordered names y y') :
    (ofYaml? y).map f = (ofYaml? y').map f := by
  have hmap : ∀ entries,
      (ofYaml? (.map entries)).map f = if (ofYaml? (.map entries)).isSome then some none else none := by
    intro entries
    rw [ofYaml?]
    rcases ofEntries? [] entries with _ | values
    · rfl
    · exact congrArg some (htable values)
  have hitems : ∀ items,
      (ofYaml? (.list items)).map f = if (ofYaml? (.list items)).isSome then some none else none := by
    intro items
    rw [ofYaml?]
    rcases ofItems? items with _ | values
    · rfl
    · exact congrArg some (hlist values)
  induction hr with
  | refl => rfl
  | trans _ _ ih ih' => exact ih.trans ih'
  | swap hdiffer v v' front back => rw [hmap, hmap, isSome_ofYaml?_reordered (.swap hdiffer v v' front back)]
  | entry hv k front back => rw [hmap, hmap, isSome_ofYaml?_reordered (.entry hv k front back)]
  | item hv front back => rw [hitems, hitems, isSome_ofYaml?_reordered (.item hv front back)]

end Yaml

namespace Settings

/-- the names on the ways to settings -/
def names : List String :=
  leaves.flatMap Leaf.path

/-- no setting takes a list for a value -/
theorem read_list {l : Leaf} (hl : l ∈ leaves) (items : List Setting) : l.read (.list items) = none := by
  revert l
  simp only [leaves, List.forall_mem_append, List.forall_mem_map]
  simp [Leaf.ofSlot, Leaf.ofGroup, single, RpcSettings.slots, HubSettings.slots, ChainParams.slots, toAddress?, toText?,
    toBool?, toOptionalText?, toUInt64?]

variable {entries entries' : List (Yaml × Yaml)}

/-- **What a file gives for a setting does not depend on the order of its keys.** -/
theorem fileValue?_reordered (hr : Yaml.Reordered names (.map entries) (.map entries')) {l : Leaf} (hl : l ∈ leaves) :
    (fileValue? entries l.path).map l.read = (fileValue? entries' l.path).map l.read := by
  have hall : ∀ y, ((Yaml.find? l.path y).bind ofYaml?).map l.read =
      ((Yaml.find? l.path y).map fun y => (ofYaml? y).map l.read).join := by
    intro y
    rcases Yaml.find? l.path y with _ | y <;> rfl
  rw [fileValue?, fileValue?, hall, hall, Yaml.find?_reordered (Yaml.read_reordered (read_list hl) (read_table hl)) hr]
  exact fun n hn => List.mem_flatMap.2 ⟨l, hl, hn⟩

/-- neither does whether it can be laid over the defaults -/
theorem plainMapping_reordered (hr : Yaml.Reordered names (.map entries) (.map entries')) (hp : PlainMapping entries) :
    PlainMapping entries' where
  readable := by rw [← Yaml.isSome_ofYaml?_reordered hr, hp.readable]
  direct := by
    intro x hx name hname
    have hkey : x.1 ∈ (Yaml.map entries).keysOf :=
      (Yaml.keysOf_reordered hr).mem_iff.2 (List.mem_map_of_mem (f := (·.1)) hx)
    obtain ⟨x', hx', hsame⟩ := List.mem_map.1 hkey
    exact hp.direct x' hx' name (hsame ▸ hname)
  grouped := by
    intro g hg y hy
    obtain ⟨l, hl, n, hpath⟩ := exists_leaf_of_group hg
    have hnamed : ∀ m ∈ [g], m ∈ names := by
      intro m hm
      rw [List.mem_singleton.1 hm]
      exact List.mem_flatMap.2 ⟨l, hl, hpath ▸ List.mem_cons_self⟩
    have hfound := Yaml.find?_reordered Yaml.isMapping_reordered hr hnamed
    rw [Yaml.find?_one, Yaml.find?_one, Option.mem_def.1 hy] at hfound
    obtain ⟨y₀, hy₀, hsame⟩ := Option.map_eq_some_iff.1 hfound
    exact Yaml.isMapping_iff.1 (hsame ▸ Yaml.isMapping_iff.2 (hp.grouped g hg y₀ hy₀))

end Settings

end ChainFeed
