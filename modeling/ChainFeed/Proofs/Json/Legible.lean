/-
A value that is written over several lines is read back as it was.

`Legible levels v` says of which values: fewer than `levels` brackets stand around any part, the text of every number
is that number again, and the members of every object are in key order, without duplicates.

- `Value.Legible.restores`: such a value is read back wherever its text stands.
- `Value.parse_indentedText`: so it is read back from the whole text.
- `Number.isExact_ofInt`: whole numbers of 64 bits always are.
-/
import ChainFeed.Json.Value
import ChainFeed.Proofs.Json.Values

namespace ChainFeed.Json

/-! ## Numbers -/

/-- the text of the number is read as the number -/
def Number.IsExact (n : Number) : Prop :=
  readNumber "" .ok n.text = .ok (n, [])

/-- whole numbers of 64 bits are always read back -/
theorem Number.isExact_ofInt {i : Int} (hlo : Int64.minValue.toInt ≤ i) (hhi : i < UInt64.size) :
    (Number.ofInt i).IsExact := by
  have htext : (Number.ofInt i).text = intText i := by
    have hvalue := toInt?_ofInt hlo hhi
    unfold Number.ofInt at hvalue ⊢
    split_ifs at hvalue ⊢ with hi
    · simp only [Number.toInt?, Option.some.injEq] at hvalue
      rw [Number.text, intText, if_neg (by omega)]
      congr 1
      omega
    · simp only [Number.toInt?, Option.some.injEq] at hvalue
      rw [Number.text, hvalue]
  rw [IsExact, htext]
  exact readNumber_intText hlo hhi rfl

theorem Number.opens_text : ∀ n : Number, Opens n.text
  | .unsigned n => opens_natText n.toNat
  | .negative i => opens_intText i.toInt
  | .float x => opens_floatText x

namespace Value

theorem taken_ok (scanned : Except Fault (Number × Input)) : taken .ok scanned = scanned := by
  cases scanned <;> rfl

/-- a number among values of any kind -/
theorem readWithin_number {cs rest : Input} {n : Number} (h : readNumber "" .ok cs = .ok (n, rest)) (levels : Nat) :
    readWithin (levels + 1) cs = .ok (.number n, rest) := by
  rw [readNumber_eq] at h
  rw [readWithin]
  cases hc : skipSpace cs with
  | nil =>
    rw [hc] at h
    cases h
  | cons c after =>
    rw [hc] at h
    by_cases hminus : c = '-'
    · subst hminus
      have hscan : scanNumber true after = .ok (n, rest) := (taken_ok _).symm.trans h
      simp only [hscan, Except.map]
    · simp only at h
      split_ifs at h with hdigit
      rw [taken_ok] at h
      -- no other kind of value starts with a digit
      have hother : ∀ d, isDigit d = false → c ≠ d := by
        rintro d hd rfl
        rw [hd] at hdigit
        cases hdigit
      simp only [hother 'n' (by decide), hother 't' (by decide), hother 'f' (by decide), hother '"' (by decide),
        hother '[' (by decide), hother '\x7b' (by decide), false_implies, hdigit, if_true, h, Except.map]

/-! ## Blocks -/

theorem indentedItems_eq (level : Nat) (items : List Value) :
    indentedItems level items = items.map (writeIndented level) := by
  induction items with
  | nil => rfl
  | cons v rest ih => rw [indentedItems, ih, List.map_cons]

/-- a member as it is written -/
def indentedMember (level : Nat) (m : String × Value) : List Char :=
  quote m.1 ++ ':' :: ' ' :: writeIndented level m.2

theorem indentedMembers_eq (level : Nat) (members : List (String × Value)) :
    indentedMembers level members = members.map (indentedMember level) := by
  induction members with
  | nil => rfl
  | cons m rest ih =>
    rw [indentedMembers, ih, List.map_cons]
    rfl

theorem blank_lineBreak (level : Nat) : Blank (lineBreak level) := by
  intro c hc
  rcases List.mem_cons.1 hc with rfl | hc
  · decide
  · rw [List.eq_of_mem_replicate hc]
    decide

theorem delimited_lineBreak (level : Nat) (rest : Input) : Delimited (lineBreak level ++ rest) :=
  delimited_cons (by decide) _

theorem block_cons (opening closing : Char) (level : Nat) (w : List Char) (ws : List (List Char)) (rest : Input) :
    block opening closing level (w :: ws) ++ rest =
      opening :: (lineBreak (level + 1) ++
        (w ++ (following (lineBreak (level + 1)) ws ++ (lineBreak level ++ closing :: rest)))) := by
  simp [block, block.spread, separated_cons, following, List.flatMap_map]

/-! ## Objects -/

/-- a member whose key comes after all others is put at the end -/
theorem insertMember_last {key : String} {members : List (String × Value)} (h : ∀ m ∈ members, m.1 < key)
    (value : Value) : insertMember key value members = members ++ [(key, value)] := by
  induction members with
  | nil => rfl
  | cons m rest ih =>
    have hm : m.1 < key := h m List.mem_cons_self
    rw [insertMember, if_neg (String.lt_asymm hm), if_neg (String.ne_of_lt hm).symm,
      ih fun m hm => h m (List.mem_cons_of_mem _ hm)]
    rfl

theorem readWithin_gap {gap : List Char} (hgap : Blank gap) (levels : Nat) (cs : Input) :
    readWithin levels (gap ++ cs) = readWithin levels cs := by
  cases levels <;> simp only [readWithin, hgap.skipSpace]

end Value

/-- values over several lines, at a level of indentation -/
def Value.indentedWithin (levels level : Nat) : Codec Value where
  write := Value.writeIndented level
  read := Value.readWithin levels

namespace Value

section

variable {levels level : Nat} {gap close : List Char} {members : List (String × Value)}

theorem indentedMember_append (level : Nat) (m : String × Value) (rest : Input) :
    indentedMember level m ++ rest =
      '"' :: (escape m.1.toList ++ '"' :: ':' :: ' ' :: (writeIndented level m.2 ++ rest)) := by
  simp [indentedMember, quote]

theorem readMembers_nil (read : Reader Value) (fuel : Nat) (rest : Input) :
    readMembers read (fuel + 1) true [] ('\x7d' :: rest) = .ok ([], '\x7d' :: rest) := by
  have hend : nextMember true ('\x7d' :: rest) = .ok (false, '\x7d' :: rest) := nextMember_brace blank_nil true rest
  simp only [readMembers, hend]

/-- one member, with what stands before its key -/
theorem readMembers_member {m : String × Value} (hm : (indentedWithin levels level).Restores m.2) {rest : Input}
    (hrest : Delimited rest) {first : Bool} {cs : Input} {done : List (String × Value)} (hdone : ∀ d ∈ done, d.1 < m.1)
    (hnext : nextMember first cs =
      .ok (true, escape m.1.toList ++ '"' :: ':' :: ' ' :: (writeIndented level m.2 ++ rest))) (fuel : Nat) :
    readMembers (readWithin levels) (fuel + 1) first done cs =
      readMembers (readWithin levels) fuel false (done ++ [m]) rest := by
  have hread : readWithin levels (' ' :: (writeIndented level m.2 ++ rest)) = .ok (m.2, rest) := by
    have hblank : Blank [' '] := by
      intro c hc
      rw [List.mem_singleton.1 hc]
      decide
    exact (readWithin_gap hblank levels _).trans (hm.reads rest hrest)
  simp only [readMembers, hnext, scanString_escape, readColon_colon, hread, insertMember_last hdone]

/-- the members after the first ones -/
theorem readMembers_more (hgap : Blank gap) (hclose : Blank close) {rest : Input}
    (hrest : Delimited (close ++ '\x7d' :: rest)) (h : ∀ m ∈ members, (indentedWithin levels level).Restores m.2)
    {fuel : Nat} (hfuel : members.length < fuel) {done : List (String × Value)}
    (hkeys : (done ++ members).Pairwise (·.1 < ·.1)) :
    readMembers (readWithin levels) fuel false done
        (following gap (members.map (indentedMember level)) ++ (close ++ '\x7d' :: rest)) =
      .ok (done ++ members, '\x7d' :: rest) := by
  induction members generalizing fuel done with
  | nil =>
    obtain ⟨fuel, rfl⟩ : ∃ n, fuel = n + 1 := ⟨fuel - 1, by simp at hfuel; omega⟩
    simp [following, readMembers, nextMember_brace hclose]
  | cons m members ih =>
    obtain ⟨fuel, rfl⟩ : ∃ n, fuel = n + 1 := ⟨fuel - 1, by simp at hfuel; omega⟩
    have hdelim := delimited_following hrest gap (members.map (indentedMember level))
    have hdone : ∀ d ∈ done, d.1 < m.1 := by
      intro d hd
      exact (List.pairwise_append.1 hkeys).2.2 d hd m List.mem_cons_self
    have hnext : ∀ tail, nextMember false (',' :: (gap ++ (indentedMember level m ++ tail))) =
        .ok (true, escape m.1.toList ++ '"' :: ':' :: ' ' :: (writeIndented level m.2 ++ tail)) := by
      intro tail
      rw [indentedMember_append]
      exact nextMember_comma hgap _
    simp only [List.map_cons, following_cons, List.cons_append, List.append_assoc]
    rw [readMembers_member (h m List.mem_cons_self) hdelim hdone (hnext _) fuel]
    rw [ih (fun d hd => h d (List.mem_cons_of_mem _ hd)) (by simpa using hfuel) (by simpa using hkeys)]
    simp

/-- the members up to the closing brace, with gaps before each of them and before the brace -/
theorem readMembers_restores (hgap : Blank gap) (hclose : Blank close) {rest : Input}
    (hrest : Delimited (close ++ '\x7d' :: rest)) {m : String × Value}
    (h : ∀ d ∈ m :: members, (indentedWithin levels level).Restores d.2) {fuel : Nat} (hfuel : members.length < fuel)
    (hkeys : (m :: members).Pairwise (·.1 < ·.1)) :
    readMembers (readWithin levels) (fuel + 1) true []
        (gap ++ (indentedMember level m ++
          (following gap (members.map (indentedMember level)) ++ (close ++ '\x7d' :: rest)))) =
      .ok (m :: members, '\x7d' :: rest) := by
  have hdelim := delimited_following hrest gap (members.map (indentedMember level))
  have hnext : ∀ tail, nextMember true (gap ++ (indentedMember level m ++ tail)) =
      .ok (true, escape m.1.toList ++ '"' :: ':' :: ' ' :: (writeIndented level m.2 ++ tail)) := by
    intro tail
    rw [indentedMember_append]
    exact nextMember_quote hgap _
  rw [readMembers_member (h m List.mem_cons_self) hdelim (fun d hd => absurd hd List.not_mem_nil) (hnext _) fuel]
  exact readMembers_more hgap hclose hrest (fun d hd => h d (List.mem_cons_of_mem _ hd)) hfuel hkeys

end

/-! ## Values -/

/-- the value can be read back where fewer than so many brackets may stand around any part -/
inductive Legible : Nat → Value → Prop where
  | null {levels : Nat} : Legible (levels + 1) .null
  | bool {levels : Nat} {b : Bool} : Legible (levels + 1) (.bool b)
  | number {levels : Nat} {n : Number} (hn : n.IsExact) : Legible (levels + 1) (.number n)
  | string {levels : Nat} {s : String} : Legible (levels + 1) (.string s)
  | array {levels : Nat} {items : List Value} (hlevels : levels ≠ 0) (hitems : ∀ v ∈ items, Legible levels v) :
      Legible (levels + 1) (.array items)
  | object {levels : Nat} {members : List (String × Value)} (hlevels : levels ≠ 0)
      (hmembers : ∀ m ∈ members, Legible levels m.2) (hkeys : members.Pairwise (·.1 < ·.1)) :
      Legible (levels + 1) (.object members)

theorem readWithin_array {levels : Nat} (hlevels : levels ≠ 0) {cs rest : Input} {items : List Value}
    (h : readElements (readWithin levels) (cs.length + 1) true [] cs = .ok (items, ']' :: rest)) :
    readWithin (levels + 1) ('[' :: cs) = .ok (.array items, rest) := by
  simp only [readWithin, skipSpace_cons (c := '[') (by decide), hlevels, if_false, h, endList_bracket, Except.map]

theorem readWithin_object {levels : Nat} (hlevels : levels ≠ 0) {cs rest : Input} {members : List (String × Value)}
    (h : readMembers (readWithin levels) (cs.length + 1) true [] cs = .ok (members, '\x7d' :: rest)) :
    readWithin (levels + 1) ('\x7b' :: cs) = .ok (.object members, rest) := by
  simp only [readWithin, skipSpace_cons (c := '\x7b') (by decide), hlevels, if_false, h, endObject_brace, Except.map]

/-- there are fewer parts in a block than characters -/
theorem length_lt_block (gap w close after : List Char) (ws : List (List Char)) (closing : Char) :
    ws.length < (gap ++ (w ++ (following gap ws ++ (close ++ closing :: after)))).length := by
  have hws := length_le_following gap ws
  simp only [List.length_append, List.length_cons]
  omega

theorem opens_block {opening : Char} (hopening : isSpace opening = false ∧ opening ≠ ']') (closing : Char) (level : Nat)
    (ws : List (List Char)) : Opens (block opening closing level ws) := by
  cases ws <;> exact opens_cons hopening _

section

variable {levels level : Nat}

theorem restores_array (hlevels : levels ≠ 0) {items : List Value}
    (h : ∀ v ∈ items, (indentedWithin levels (level + 1)).Restores v) :
    (indentedWithin (levels + 1) level).Restores (.array items) := by
  refine ⟨opens_block (by decide) _ _ _, ?_⟩
  intro rest _
  show readWithin (levels + 1) (block '[' ']' level (indentedItems (level + 1) items) ++ rest) = _
  rw [indentedItems_eq]
  cases items with
  | nil => exact readWithin_array hlevels (readElements_nil _ _ rest)
  | cons v items =>
    rw [List.map_cons, block_cons]
    refine readWithin_array hlevels ?_
    refine readElements_restores (blank_lineBreak _) (blank_lineBreak level) (delimited_lineBreak level _) h ?_
    simpa using length_lt_block (lineBreak (level + 1)) (writeIndented (level + 1) v) (lineBreak level) rest
      (items.map (writeIndented (level + 1))) ']'

theorem restores_object (hlevels : levels ≠ 0) {members : List (String × Value)}
    (h : ∀ m ∈ members, (indentedWithin levels (level + 1)).Restores m.2) (hkeys : members.Pairwise (·.1 < ·.1)) :
    (indentedWithin (levels + 1) level).Restores (.object members) := by
  refine ⟨opens_block (by decide) _ _ _, ?_⟩
  intro rest _
  show readWithin (levels + 1) (block '\x7b' '\x7d' level (indentedMembers (level + 1) members) ++ rest) = _
  rw [indentedMembers_eq]
  cases members with
  | nil => exact readWithin_object hlevels (readMembers_nil _ _ rest)
  | cons m members =>
    rw [List.map_cons, block_cons]
    refine readWithin_object hlevels ?_
    refine readMembers_restores (blank_lineBreak _) (blank_lineBreak level) (delimited_lineBreak level _) h ?_ hkeys
    simpa using length_lt_block (lineBreak (level + 1)) (indentedMember (level + 1) m) (lineBreak level) rest
      (members.map (indentedMember (level + 1))) '\x7d'

end

/-- **A legible value is read back wherever its text stands.** -/
theorem Legible.restores {levels : Nat} {v : Value} (h : v.Legible levels) (level : Nat) :
    (indentedWithin levels level).Restores v := by
  -- the level goes up with each bracket, while the number of brackets that may follow goes down
  induction h generalizing level with
  | null =>
    refine ⟨opens_cons (by decide) _, ?_⟩
    intro rest _
    rfl
  | @bool levels b =>
    refine ⟨(bool_restores b).opens, ?_⟩
    intro rest _
    cases b <;> rfl
  | @number levels n hn =>
    refine ⟨n.opens_text, ?_⟩
    intro rest hrest
    exact readWithin_number (readNumber_append hrest hn) levels
  | @string levels s =>
    refine ⟨opens_quote s, ?_⟩
    intro rest _
    show readWithin (levels + 1) (quote s ++ rest) = _
    rw [quote_cons, readWithin, skipSpace_cons (by decide)]
    simp only [scanString_escape, Except.map]
  | array hlevels _ ih => exact restores_array hlevels fun v hv => ih v hv (level + 1)
  | object hlevels _ hkeys ih => exact restores_object hlevels (fun m hm => ih m hm (level + 1)) hkeys

/-- **A legible value is read back from its text over several lines.** -/
theorem parse_indentedText {v : Value} (h : v.Legible Value.levels) : codec.parse v.indentedText = .ok v :=
  (h.restores 0).parse_text

end Value

end ChainFeed.Json
