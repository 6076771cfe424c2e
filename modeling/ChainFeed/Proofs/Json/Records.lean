/-
A record is read back if the values of its fields are.

`Fields.Restores` asks it of every value that is written; a value that is left out has to be the one that an object
without the key gives. `Fields.Takes` says which members lead from some values read to others, one member at a time:
- `readMembers_takes`: reading members follows `Takes`.
- `takes_row`: the written members of a row lead from no value to the row's own, if no two fields share a key.
- `record_reads`, `record_restores`: so the record is read back.
-/
import ChainFeed.Proofs.Json.Values

namespace ChainFeed.Json

/-- the value of a field is read back: from what is written for it, or from its absence -/
def Field.Restores {α : Type} (field : Field α) (a : α) : Prop :=
  if field.omitted a then field.absent = some a else field.codec.Restores a

/-- a value that may be left out has to be read back only where it is there -/
theorem Field.omitting_restores {α : Type} {codec : Codec α} {a : Option α} (h : (Json.optional codec).Restores a)
    (key : String) : (Field.omitting key codec).Restores a := by
  cases a with
  | none => rfl
  | some a => exact h

namespace Fields

/-- the keys of a record, in order -/
def keys : {types : List Type} → Fields types → List String
  | _, nil => []
  | _, cons field rest => field.key :: rest.keys

/-- every value of a row is read back -/
def Restores : {types : List Type} → Fields types → Row types → Prop
  | _, nil, _ => True
  | _, cons field rest, (a, row) => field.Restores a ∧ rest.Restores row

/-- the members of the written object as pairs of a key and the text of a value -/
def entries : {types : List Type} → Fields types → Row types → List (String × List Char)
  | _, nil, _ => []
  | _, cons field rest, (a, row) =>
    if field.omitted a then rest.entries row else (field.key, field.codec.write a) :: rest.entries row

/-- the values that the written object gives -/
def written : {types : List Type} → Fields types → Row types → Slots types
  | _, nil, _ => ()
  | _, cons field rest, (a, row) => (if field.omitted a then none else some a, rest.written row)

/-- a member as it is written -/
def member (entry : String × List Char) : List Char :=
  quote entry.1 ++ ':' :: entry.2

/-- what is read from members, one after another -/
inductive Takes {types : List Type} (fields : Fields types) :
    Slots types → List (String × List Char) → Slots types → Prop where
  | done {slots : Slots types} : Takes fields slots [] slots
  | more {slots slots' slots'' : Slots types} {key : String} {value : List Char}
      {entries : List (String × List Char)} {read : Reader (Slots types)}
      (hmeaning : fields.meaning slots key = .field read)
      (hread : ∀ rest, Delimited rest → read (value ++ rest) = .ok (slots', rest))
      (hrest : Takes fields slots' entries slots'') : Takes fields slots ((key, value) :: entries) slots''

variable {types : List Type}

theorem members_eq (fields : Fields types) (row : Row types) :
    fields.members row = (fields.entries row).map member := by
  induction fields with
  | nil => rfl
  | cons field rest ih =>
    obtain ⟨a, row⟩ := row
    simp only [members, entries]
    split_ifs
    · exact ih row
    · rw [List.map_cons, ih row]
      rfl

theorem mem_keys_of_entries (fields : Fields types) (row : Row types) {key : String} {value : List Char}
    (h : (key, value) ∈ fields.entries row) : key ∈ fields.keys := by
  induction fields with
  | nil => cases h
  | cons field rest ih =>
    obtain ⟨a, row⟩ := row
    simp only [entries] at h
    split_ifs at h
    · exact List.mem_cons_of_mem _ (ih row h)
    · rcases List.mem_cons.1 h with heq | h
      · cases heq
        exact List.mem_cons_self
      · exact List.mem_cons_of_mem _ (ih row h)

/-! ## Reading members -/

theorem member_append (key : String) (value tail : List Char) :
    member (key, value) ++ tail = '"' :: (escape key.toList ++ '"' :: ':' :: (value ++ tail)) := by
  simp [member, quote]

theorem nextMember_end (first : Bool) (cs : Input) :
    nextMember first ('\x7d' :: cs) = .ok (false, '\x7d' :: cs) :=
  nextMember_brace blank_nil first cs

/-- one member, after the comma before it -/
theorem readMembers_member {fields : Fields types} {slots slots' : Slots types} {key : String} {value : List Char}
    {read : Reader (Slots types)} (hmeaning : fields.meaning slots key = .field read) {tail : Input}
    (hread : read (value ++ tail) = .ok (slots', tail)) {first : Bool} {cs : Input}
    (hnext : nextMember first cs = .ok (true, escape key.toList ++ '"' :: ':' :: (value ++ tail))) (fuel : Nat) :
    fields.readMembers (fuel + 1) first slots cs = fields.readMembers fuel false slots' tail := by
  simp only [readMembers, hnext, scanString_escape, hmeaning, readColon_colon, hread]

/-- the members after the first one -/
theorem readMembers_more {fields : Fields types} {slots slots' : Slots types} {entries : List (String × List Char)}
    (h : fields.Takes slots entries slots') (rest : Input) {fuel : Nat} (hfuel : entries.length < fuel) :
    fields.readMembers fuel false slots (following [] (entries.map member) ++ '\x7d' :: rest) =
      .ok (slots', '\x7d' :: rest) := by
  induction h generalizing fuel with
  | done =>
    obtain ⟨fuel, rfl⟩ : ∃ n, fuel = n + 1 := ⟨fuel - 1, by simp at hfuel; omega⟩
    simp [following, readMembers, nextMember_end]
  | @more slots slots' slots'' key value entries read hmeaning hread _ ih =>
    obtain ⟨fuel, rfl⟩ : ∃ n, fuel = n + 1 := ⟨fuel - 1, by simp at hfuel; omega⟩
    have hbrace : Delimited ('\x7d' :: rest) := delimited_cons (by decide) rest
    have hdelim := delimited_following hbrace [] (entries.map member)
    have hnext : ∀ tail, nextMember false (',' :: (member (key, value) ++ tail)) =
        .ok (true, escape key.toList ++ '"' :: ':' :: (value ++ tail)) := fun tail => by
      rw [member_append]
      exact nextMember_comma blank_nil _
    simp only [List.map_cons, following_cons, List.nil_append, List.cons_append, List.append_assoc]
    rw [readMembers_member hmeaning (hread _ hdelim) (hnext _) fuel]
    exact ih (by simpa using hfuel)

/-- **Reading the members of an object takes them one after another.** -/
theorem readMembers_takes {fields : Fields types} {slots slots' : Slots types} {entries : List (String × List Char)}
    (h : fields.Takes slots entries slots') (rest : Input) {fuel : Nat} (hfuel : entries.length < fuel) :
    fields.readMembers fuel true slots (separated (entries.map member) ++ '\x7d' :: rest) =
      .ok (slots', '\x7d' :: rest) := by
  obtain ⟨fuel, rfl⟩ : ∃ n, fuel = n + 1 := ⟨fuel - 1, by omega⟩
  cases h with
  | done => simp [separated, readMembers, nextMember_end]
  | @more _ slots' _ key value entries read hmeaning hread hrest =>
    have hbrace : Delimited ('\x7d' :: rest) := delimited_cons (by decide) rest
    have hdelim := delimited_following hbrace [] (entries.map member)
    have hnext : ∀ tail, nextMember true (member (key, value) ++ tail) =
        .ok (true, escape key.toList ++ '"' :: ':' :: (value ++ tail)) := fun tail => by
      rw [member_append]
      exact nextMember_quote blank_nil _
    rw [List.map_cons, separated_cons, List.append_assoc,
      readMembers_member hmeaning (hread _ hdelim) (hnext _) fuel]
    exact readMembers_more hrest rest (by simpa using hfuel)

/-! ## The members of a row -/

section

variable {α : Type} {field : Field α} {fields : Fields types}

theorem meaning_first (field : Field α) (fields : Fields types) (slots : Slots types) :
    (Fields.cons field fields).meaning (none, slots) field.key =
      .field fun cs => (field.codec.read cs).map fun (a, cs) => ((some a, slots), cs) := by
  simp only [meaning, if_true]

theorem meaning_later {slots : Slots types} {key : String} {read : Reader (Slots types)} (hkey : field.key ≠ key)
    (h : fields.meaning slots key = .field read) (slot : Option α) :
    (Fields.cons field fields).meaning (slot, slots) key =
      .field fun cs => (read cs).map fun (slots, cs) => ((slot, slots), cs) := by
  simp only [meaning, hkey, if_false, h]

/-- members of other fields are taken as if the first field were not there -/
theorem Takes.skip {slots slots' : Slots types}
    {entries : List (String × List Char)} (h : fields.Takes slots entries slots')
    (hkeys : ∀ entry ∈ entries, field.key ≠ entry.1) (slot : Option α) :
    (Fields.cons field fields).Takes (slot, slots) entries (slot, slots') := by
  induction h with
  | done => exact .done
  | @more slots slots' slots'' key value entries read hmeaning hread _ ih =>
    have hkey : field.key ≠ key := hkeys _ List.mem_cons_self
    refine .more (meaning_later hkey hmeaning slot) ?_
      (ih fun entry he => hkeys entry (List.mem_cons_of_mem _ he))
    intro rest hr
    rw [hread rest hr]
    rfl

end

/-- **The written members of a row lead from no value to the values of the row.** -/
theorem takes_row {fields : Fields types} {row : Row types} (hkeys : fields.keys.Nodup) (h : fields.Restores row) :
    fields.Takes fields.blank (fields.entries row) (fields.written row) := by
  induction fields with
  | nil => exact .done
  | cons field rest ih =>
    obtain ⟨a, row⟩ := row
    obtain ⟨ha, hrow⟩ := h
    obtain ⟨hfresh, hkeys⟩ := List.nodup_cons.1 hkeys
    have hothers : ∀ entry ∈ rest.entries row, field.key ≠ entry.1 := by
      rintro ⟨key, value⟩ he rfl
      exact hfresh (mem_keys_of_entries rest row he)
    have htail := ih hkeys hrow
    simp only [entries, written, blank]
    unfold Field.Restores at ha
    split_ifs at ha ⊢ with homitted
    · exact htail.skip hothers none
    · refine .more (meaning_first field rest _) ?_ (htail.skip hothers (some a))
      intro tail ht
      rw [ha.reads tail ht]
      rfl

/-- the values of the written object make up the row -/
theorem complete_written {fields : Fields types} {row : Row types} (h : fields.Restores row) :
    fields.complete (fields.written row) = .ok row := by
  induction fields with
  | nil => rfl
  | cons field rest ih =>
    obtain ⟨a, row⟩ := row
    obtain ⟨ha, hrow⟩ := h
    have hslot : (if field.omitted a then none else some a).or field.absent = some a := by
      unfold Field.Restores at ha
      split_ifs at ha ⊢
      · exact ha
      · rfl
    simp only [written, complete, hslot, ih hrow]
    rfl

end Fields

/-! ## Records -/

section

variable {types : List Type} {fields : Fields types} {α : Type} {title : String} {make : Row types → α}
  {row : α → Row types} {a : α}

/-- **A record is read back if the values of its fields are,** whatever comes after its closing brace. -/
theorem record_reads (hkeys : fields.keys.Nodup) (hmake : make (row a) = a) (h : fields.Restores (row a))
    (rest : Input) :
    (record title fields make row).read ((record title fields make row).write a ++ rest) = .ok (a, rest) := by
  have hwrite : (record title fields make row).write a ++ rest =
      '\x7b' :: (separated ((fields.entries (row a)).map Fields.member) ++ '\x7d' :: rest) := by
    simp [record, Fields.writeRow, Fields.members_eq]
  have hlength : (fields.entries (row a)).length <
      (separated ((fields.entries (row a)).map Fields.member) ++ '\x7d' :: rest).length + 1 := by
    have hparts := length_le_separated ((fields.entries (row a)).map Fields.member)
    rw [List.length_map] at hparts
    rw [List.length_append, List.length_cons]
    omega
  rw [hwrite]
  simp only [record, Fields.readRow, skipSpace_cons (c := '\x7b') (by decide),
    Fields.readMembers_takes (Fields.takes_row hkeys h) rest hlength, Fields.complete_written h, Except.map,
    endObject_brace, hmake]

theorem record_restores (hkeys : fields.keys.Nodup) (hmake : make (row a) = a) (h : fields.Restores (row a)) :
    (record title fields make row).Restores a :=
  ⟨opens_cons (by decide) _, fun rest _ => record_reads hkeys hmake h rest⟩

/-- a record is not written like an absent value -/
theorem optional_record_restores {b : Option α} (h : ∀ x ∈ b, (record title fields make row).Restores x) :
    (optional (record title fields make row)).Restores b :=
  optional_restores fun x hx => ⟨h x hx, by simp [record, Fields.writeRow]⟩

end

end ChainFeed.Json
