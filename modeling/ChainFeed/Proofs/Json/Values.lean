/-
A value is read back from what is written for it, wherever it stands: at the end of a text, or before a comma, a
closing bracket or a line break.

`Codec.Restores c a` says so for one value and is all that the enclosing value needs to know about it. Main
statements:
- `boundedInt_restores`: every integer of a bounded type.
- `float_restores`: every double whose own text is read back (`ReadsBack`).
- `list_restores`, `optional_restores`, `variant_restores`: what is put together from values that are read back.
- `Codec.Restores.parse_text`: such a value is read back from a whole text.
-/
import ChainFeed.Proofs.Json.Numbers

namespace ChainFeed.Json

/-! ## Values in their places -/

/-- the text starts like a value: neither with a blank nor with a closing bracket -/
def Opens (cs : Input) : Prop :=
  ∃ c rest, cs = c :: rest ∧ isSpace c = false ∧ c ≠ ']'

/-- a value is read back from what is written for it, and what delimits it is left -/
structure Codec.Restores {α : Type} (c : Codec α) (a : α) : Prop where
  opens : Opens (c.write a)
  reads : ∀ rest, Delimited rest → c.read (c.write a ++ rest) = .ok (a, rest)

theorem opens_cons {c : Char} (hc : isSpace c = false ∧ c ≠ ']') (rest : Input) : Opens (c :: rest) :=
  ⟨c, rest, rfl, hc⟩

theorem Codec.Restores.parse_text {α : Type} {c : Codec α} {a : α} (h : c.Restores a) : c.parse (c.text a) = .ok a := by
  have hreads := h.reads [] delimited_nil
  rw [List.append_nil] at hreads
  simp [Codec.parse, Codec.readAll, Codec.text, hreads, skipSpace]

/-! ## Numbers -/

theorem opens_of_digit {c : Char} (hc : isDigit c = true) (rest : Input) : Opens (c :: rest) := by
  refine opens_cons ⟨not_space_of_digit hc, ?_⟩ rest
  rintro rfl
  exact absurd hc (by decide)

theorem opens_natText (n : Nat) : Opens (natText n) := by
  cases hd : natText n with
  | nil => exact absurd hd (natText_ne_nil n)
  | cons c cs => exact opens_of_digit (isDigit_natText (by rw [hd]; exact List.mem_cons_self)) cs

theorem opens_intText (i : Int) : Opens (intText i) := by
  unfold intText
  split_ifs
  · exact opens_cons (by decide) _
  · exact opens_natText _

/-- **Every integer of a bounded type is read back.** -/
theorem boundedInt_restores {α : Type} {expected : String} {lo hi : Int} {ofInt : Int → α} {toInt : α → Int}
    (hlo : Int64.minValue.toInt ≤ lo) (hhi : hi < UInt64.size) {a : α} (ha : lo ≤ toInt a ∧ toInt a ≤ hi)
    (hof : ofInt (toInt a) = a) : (boundedInt expected lo hi ofInt toInt).Restores a := by
  have hfrom : Int64.minValue.toInt ≤ toInt a := Int.le_trans hlo ha.1
  have hto : toInt a < UInt64.size := Int.lt_of_le_of_lt ha.2 hhi
  have htake : takeInt expected lo hi ofInt (.ofInt (toInt a)) = .ok a := by
    simp only [takeInt, toInt?_ofInt hfrom hto, ha, and_self, if_true, hof]
  exact ⟨opens_intText _, fun rest hr => readNumber_append hr (readNumber_intText hfrom hto htake)⟩

theorem uint8_restores (n : UInt8) : uint8.Restores n := by
  have hn := n.toNat_lt
  refine boundedInt_restores (by decide) (by decide) (by omega) ?_
  simp

theorem uint16_restores (n : UInt16) : uint16.Restores n := by
  have hn := n.toNat_lt
  refine boundedInt_restores (by decide) (by decide) (by omega) ?_
  simp

theorem uint32_restores (n : UInt32) : uint32.Restores n := by
  have hn := n.toNat_lt
  refine boundedInt_restores (by decide) (by decide) (by omega) ?_
  simp

theorem uint64_restores (n : UInt64) : uint64.Restores n := by
  have hn := n.toNat_lt
  refine boundedInt_restores (by decide) (by decide) (by omega) ?_
  simp

theorem size_restores (n : UInt64) : size.Restores n := by
  have hn := n.toNat_lt
  refine boundedInt_restores (by decide) (by decide) (by omega) ?_
  simp

theorem int64_restores (i : Int64) : int64.Restores i :=
  boundedInt_restores (by decide) (by decide) ⟨i.minValue_le_toInt, i.toInt_le⟩ (Int64.ofInt_toInt i)

/-- the text of the double is read as the double -/
def ReadsBack (x : Float) : Prop :=
  float.read (float.write x) = .ok (x, [])

theorem opens_digits {cs : Input} (hd : ∀ c ∈ cs, isDigit c = true) (hne : cs ≠ []) (rest : Input) :
    Opens (cs ++ rest) := by
  cases cs with
  | nil => exact absurd rfl hne
  | cons c cs => exact opens_of_digit (hd c List.mem_cons_self) _

theorem isDigit_digitChars (d : Decimal) : ∀ c ∈ d.digitChars, isDigit c = true := fun _ hc =>
  isDigit_natText hc

theorem digitChars_ne_nil (d : Decimal) : d.digitChars ≠ [] := Nat.toDigits_ne_nil

theorem opens_decimalText (l : FloatLayout) (d : Decimal) : Opens (l.decimalText d) := by
  have hdigits := isDigit_digitChars d
  have hne := digitChars_ne_nil d
  unfold FloatLayout.decimalText
  dsimp only
  split_ifs
  · unfold positional
    split_ifs with hpoint hlong
    · exact opens_of_digit (by decide) _
    · rw [List.append_assoc]
      exact opens_digits hdigits hne _
    · refine opens_digits (fun c hc => hdigits c (List.mem_of_mem_take hc)) ?_ _
      intro htake
      rcases List.take_eq_nil_iff.1 htake with hzero | hnil
      · omega
      · exact hne hnil
  · unfold FloatLayout.exponential
    generalize d.digitChars = digits at *
    rcases digits with _ | ⟨c, _ | ⟨e, digits⟩⟩
    · exact absurd rfl hne
    · exact opens_of_digit (hdigits c (by simp)) _
    · exact opens_of_digit (hdigits c (by simp)) _

theorem opens_floatText (x : Float) : Opens (floatText x) := by
  unfold floatText FloatLayout.text?
  cases Binary64.ofFloat x with
  | finite negative significand exponent =>
    cases negative with
    | true => exact opens_cons (by decide) _
    | false =>
      simp only [Option.getD_some, Bool.false_eq_true, if_false]
      split_ifs
      · exact opens_cons (by decide) _
      · exact opens_decimalText _ _
  | infinite negative => exact opens_cons (by decide) _
  | nan => exact opens_cons (by decide) _

/-- **A double is read back where its own text is.** -/
theorem float_restores {x : Float} (hx : ReadsBack x) : float.Restores x := by
  have hnumber : readNumber "f64" (fun n => .ok n.toFloat) (floatText x) = .ok (x, []) := hx
  exact ⟨opens_floatText x, fun rest hr => readNumber_append hr hnumber⟩

/-! ## Booleans, strings, names -/

theorem bool_restores (b : Bool) : bool.Restores b := by
  constructor
  · cases b <;> exact opens_cons (by decide) _
  · intro rest _
    cases b <;> rfl

theorem quote_cons (s : String) (rest : Input) : quote s ++ rest = '"' :: (escape s.toList ++ '"' :: rest) := by
  simp [quote]

theorem opens_quote (s : String) : Opens (quote s) := opens_cons (by decide) _

/-- a string that a type takes as one of its values is read as that value -/
theorem readString_quote {α : Type} {expected : String} {take : String → Except Cause α} {s : String} {a : α}
    (ht : take s = .ok a) (rest : Input) : readString expected take (quote s ++ rest) = .ok (a, rest) := by
  rw [quote_cons]
  simp only [readString, skipSpace_cons (c := '"') (by decide), scanString_escape, ht]

theorem string_restores (s : String) : string.Restores s :=
  ⟨opens_quote s, fun rest _ => string_exact s rest⟩

/-- a value that is written by its name is read back if the name leads to it -/
theorem variant_restores {α : Type} {variants : List (String × α)} {name : α → String} {a : α}
    (ha : variants.lookup (name a) = some a) : (variant variants name).Restores a := by
  refine ⟨opens_quote _, fun rest _ => ?_⟩
  have hname : readString "variant identifier" (takeVariant variants) (quote (name a) ++ rest) = .ok (a, rest) :=
    readString_quote (by simp only [takeVariant, ha]) rest
  rw [quote_cons] at hname
  simp only [variant, quote_cons, skipSpace_cons (c := '"') (by decide), hname]

/-! ## Values that may be absent -/

/-- an absent value is read back, and so is one that is not written like an absent one -/
theorem optional_restores {α : Type} {c : Codec α} {a : Option α}
    (ha : ∀ x ∈ a, c.Restores x ∧ (c.write x).head? ≠ some 'n') : (optional c).Restores a := by
  cases a with
  | none => exact ⟨opens_cons (by decide) _, fun rest _ => rfl⟩
  | some x =>
    obtain ⟨hx, hhead⟩ := ha x rfl
    refine ⟨hx.opens, fun rest hr => ?_⟩
    have hreads := hx.reads rest hr
    obtain ⟨first, cs, hwrite, hspace, -⟩ := hx.opens
    have hn : first ≠ 'n' := fun hn => hhead (by rw [hwrite, hn]; rfl)
    rw [hwrite, List.cons_append] at hreads
    simp only [optional, hwrite, List.cons_append, skipSpace_cons hspace]
    split
    · next heq => cases heq; exact absurd rfl hn
    · rw [hreads]
      rfl

/-- numbers are not written like an absent value -/
theorem head_intText (i : Int) : (intText i).head? ≠ some 'n' := by
  unfold intText
  split_ifs
  · simp
  · intro hn
    have hmem : 'n' ∈ natText i.natAbs := List.mem_of_mem_head? hn
    exact absurd (isDigit_natText hmem) (by decide)

/-- a double that is read back is not written like an absent value -/
theorem head_floatText {x : Float} (hx : ReadsBack x) : (floatText x).head? ≠ some 'n' := by
  intro hn
  obtain ⟨tail, htext⟩ : ∃ tail, floatText x = 'n' :: tail := ⟨_, (List.cons_head?_tail hn).symm⟩
  have hread : readNumber "f64" (fun n => .ok n.toFloat) (floatText x) = .ok (x, []) := hx
  rw [htext, readNumber_eq, skipSpace_cons (by decide)] at hread
  cases hread

theorem optional_string_restores (s : Option String) : (optional string).Restores s :=
  optional_restores fun s _ => ⟨string_restores s, by simp [string, quote]⟩

theorem optional_int64_restores (i : Option Int64) : (optional int64).Restores i :=
  optional_restores fun i _ => ⟨int64_restores i, head_intText _⟩

theorem optional_float_restores {x : Option Float} (h : ∀ y ∈ x.toList, ReadsBack y) : (optional float).Restores x :=
  optional_restores fun y hy =>
    have hback := h y (by simpa using hy)
    ⟨float_restores hback, head_floatText hback⟩

/-! ## Lists -/

/-- parts after a first one, each after a comma and a gap -/
def following (gap : List Char) (ws : List (List Char)) : List Char :=
  ws.flatMap fun w => ',' :: (gap ++ w)

theorem following_cons (gap w : List Char) (ws : List (List Char)) :
    following gap (w :: ws) = ',' :: (gap ++ (w ++ following gap ws)) := by
  simp [following]

theorem separated_cons (w : List Char) (ws : List (List Char)) : separated (w :: ws) = w ++ following [] ws := by
  induction ws generalizing w with
  | nil => simp [separated, following]
  | cons v ws ih => simp [separated, ih v, following_cons]

/-- there are no more parts than commas before them -/
theorem length_le_following (gap : List Char) (ws : List (List Char)) : ws.length ≤ (following gap ws).length := by
  induction ws with
  | nil => simp
  | cons w ws ih =>
    simp only [following_cons, List.length_append, List.length_cons]
    omega

/-- there are no more parts than commas between them and one -/
theorem length_le_separated (ws : List (List Char)) : ws.length ≤ (separated ws).length + 1 := by
  cases ws with
  | nil => simp
  | cons w ws =>
    have hws := length_le_following [] ws
    rw [separated_cons, List.length_append, List.length_cons]
    omega

/-- the parts that follow one, and what comes after the last of them -/
theorem delimited_following {after : Input} (hafter : Delimited after) (gap : List Char) (ws : List (List Char)) :
    Delimited (following gap ws ++ after) := by
  cases ws with
  | nil => exact hafter
  | cons w ws =>
    rw [following_cons]
    exact delimited_cons (Or.inl rfl) _

section

variable {gap close : List Char}

theorem nextElement_bracket (hclose : Blank close) (first : Bool) (rest : Input) :
    nextElement first (close ++ ']' :: rest) = .ok (false, ']' :: rest) := by
  simp [nextElement, hclose.skipSpace, skipSpace_cons (c := ']') (by decide)]

theorem nextElement_opens (hgap : Blank gap) {cs : Input} (h : Opens cs) (rest : Input) :
    nextElement true (gap ++ (cs ++ rest)) = .ok (true, cs ++ rest) := by
  obtain ⟨c, cs, rfl, hspace, hbracket⟩ := h
  simp [nextElement, hgap.skipSpace, skipSpace_cons hspace]

theorem nextElement_comma (hgap : Blank gap) {cs : Input} (h : Opens cs) (rest : Input) :
    nextElement false (',' :: (gap ++ (cs ++ rest))) = .ok (true, cs ++ rest) := by
  obtain ⟨c, cs, rfl, hspace, hbracket⟩ := h
  simp [nextElement, skipSpace_cons (c := ',') (by decide), hgap.skipSpace, skipSpace_cons hspace, hbracket]

theorem endList_bracket (rest : Input) : endList (']' :: rest) = .ok rest := by
  simp [endList, skipSpace_cons (c := ']') (by decide)]

variable {α : Type} {c : Codec α} {as : List α}

omit c in
theorem readElements_nil (read : Reader α) (fuel : Nat) (rest : Input) :
    readElements read (fuel + 1) true [] (']' :: rest) = .ok ([], ']' :: rest) := by
  have hend : nextElement true (']' :: rest) = .ok (false, ']' :: rest) := nextElement_bracket blank_nil true rest
  simp only [readElements, hend, List.reverse_nil]

/-- the elements after the first one -/
theorem readElements_more (hgap : Blank gap) (hclose : Blank close) {rest : Input}
    (hrest : Delimited (close ++ ']' :: rest)) (h : ∀ a ∈ as, c.Restores a) {fuel : Nat} (hfuel : as.length < fuel)
    (done : List α) :
    readElements c.read fuel false done (following gap (as.map c.write) ++ (close ++ ']' :: rest)) =
      .ok (done.reverse ++ as, ']' :: rest) := by
  induction as generalizing fuel done with
  | nil =>
    obtain ⟨fuel, rfl⟩ : ∃ n, fuel = n + 1 := ⟨fuel - 1, by simp at hfuel; omega⟩
    simp [following, readElements, nextElement_bracket hclose]
  | cons a as ih =>
    obtain ⟨fuel, rfl⟩ : ∃ n, fuel = n + 1 := ⟨fuel - 1, by simp at hfuel; omega⟩
    have ha := h a List.mem_cons_self
    have hdelim := delimited_following hrest gap (as.map c.write)
    simp only [List.map_cons, following_cons, List.cons_append, List.append_assoc, readElements,
      nextElement_comma hgap ha.opens, ha.reads _ hdelim]
    rw [ih (fun b hb => h b (List.mem_cons_of_mem _ hb)) (by simpa using hfuel) (a :: done)]
    simp

/-- the elements up to the closing bracket, with gaps before each of them and before the bracket -/
theorem readElements_restores (hgap : Blank gap) (hclose : Blank close) {rest : Input}
    (hrest : Delimited (close ++ ']' :: rest)) {a : α} (h : ∀ b ∈ a :: as, c.Restores b) {fuel : Nat}
    (hfuel : as.length < fuel) :
    readElements c.read (fuel + 1) true []
        (gap ++ (c.write a ++ (following gap (as.map c.write) ++ (close ++ ']' :: rest)))) =
      .ok (a :: as, ']' :: rest) := by
  have ha := h a List.mem_cons_self
  have hdelim := delimited_following hrest gap (as.map c.write)
  simp only [readElements, nextElement_opens hgap ha.opens, ha.reads _ hdelim]
  exact readElements_more hgap hclose hrest (fun b hb => h b (List.mem_cons_of_mem _ hb)) hfuel [a]

/-- **A list is read back if its elements are.** -/
theorem list_restores (h : ∀ a ∈ as, c.Restores a) : (list c).Restores as := by
  refine ⟨opens_cons (by decide) _, fun rest _ => ?_⟩
  have hwrite : (list c).write as ++ rest = '[' :: (separated (as.map c.write) ++ ']' :: rest) := by
    simp [list]
  have hread : readElements c.read ((separated (as.map c.write) ++ ']' :: rest).length + 1) true []
      (separated (as.map c.write) ++ ']' :: rest) = .ok (as, ']' :: rest) := by
    cases as with
    | nil => exact readElements_nil _ _ rest
    | cons a as =>
      have hlength := length_le_separated ((a :: as).map c.write)
      rw [List.length_map, List.length_cons] at hlength
      have hfuel : as.length < (separated ((a :: as).map c.write) ++ ']' :: rest).length := by
        rw [List.length_append, List.length_cons]
        omega
      have hdelim : Delimited (']' :: rest) := delimited_cons (by decide) rest
      have hall := readElements_restores blank_nil blank_nil hdelim h hfuel
      simp only [List.map_cons, separated_cons, List.append_assoc, List.nil_append] at hall ⊢
      exact hall
  rw [hwrite]
  simp only [list, skipSpace_cons (c := '[') (by decide), hread, endList_bracket]
  rfl

end

end ChainFeed.Json
