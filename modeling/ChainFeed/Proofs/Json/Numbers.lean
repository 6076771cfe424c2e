/-
Numbers in a text end where a comma, a closing bracket or a line break comes.

- `scanNumber_append`: what a scanner of numbers takes from a text does not depend on what comes after the comma,
  the bracket or the line break that ends the text.
- `readNumber_append`: the same for a number that is taken as a value of a type.
- `scanNumber_natText`: the digits of a whole number of 64 bits are scanned as that number.
- `readNumber_intText`: so a whole number of a bounded type is read back from its digits.
-/
import ChainFeed.Proofs.Number.Digits
import ChainFeed.Proofs.Json.Strings

namespace ChainFeed.Json

/-- a comma, a closing bracket or a line break -/
def IsDelimiter (c : Char) : Prop :=
  c = ',' ∨ c = ']' ∨ c = '\x7d' ∨ c = '\n'

instance : DecidablePred IsDelimiter :=
  fun _ => inferInstanceAs (Decidable (_ ∨ _))

/-- the text has ended, or goes on with a comma, a closing bracket or a line break -/
def Delimited (rest : Input) : Prop :=
  ∀ c ∈ rest.head?, IsDelimiter c

theorem delimited_nil : Delimited [] := by
  intro c hc
  cases hc

theorem delimited_cons {c : Char} (hc : IsDelimiter c) (rest : Input) : Delimited (c :: rest) := by
  intro d hd
  cases hd
  exact hc

theorem Delimited.not_digit {rest : Input} (hr : Delimited rest) : Stops isDigit rest := by
  intro c hc
  rcases hr c hc with rfl | rfl | rfl | rfl <;> decide

theorem not_space_of_digit {c : Char} (hc : isDigit c = true) : isSpace c = false := by
  by_contra hspace
  simp only [isSpace, Bool.not_eq_false, Bool.or_eq_true, decide_eq_true_eq] at hspace
  rcases hspace with ((rfl | rfl) | rfl) | rfl <;> exact absurd hc (by decide)

/-! ## Where numbers end -/

section

variable {rest : Input}

theorem scanExponentDigits_append (hr : Delimited rest) (n : Nat) (cs : Input) :
    scanExponentDigits n (cs ++ rest) =
      ((scanExponentDigits n cs).1, (scanExponentDigits n cs).2.1, (scanExponentDigits n cs).2.2 ++ rest) := by
  induction cs generalizing n with
  | nil =>
    cases rest with
    | nil => rfl
    | cons c rest => simp [scanExponentDigits, hr.not_digit c rfl]
  | cons c cs ih =>
    simp only [List.cons_append, scanExponentDigits]
    split_ifs
    · rfl
    · exact ih _
    · rfl

theorem floatOf_append {negative : Bool} {digits : Nat} {exponent : Int} {cs tail : Input} {n : Number}
    (h : floatOf negative digits exponent cs = .ok (n, tail)) (rest : Input) :
    floatOf negative digits exponent (cs ++ rest) = .ok (n, tail ++ rest) := by
  unfold floatOf at h ⊢
  split at h
  · cases h
    rfl
  · cases h

theorem wholeNumber_append {negative : Bool} {m left : Nat} {cs tail : Input} {n : Number}
    (h : wholeNumber negative m left cs = .ok (n, tail)) (rest : Input) :
    wholeNumber negative m left (cs ++ rest) = .ok (n, tail ++ rest) := by
  unfold wholeNumber at h ⊢
  split_ifs at h ⊢
  · exact floatOf_append h rest
  · cases h
    rfl
  · cases h
    rfl
  · exact floatOf_append h rest

/-- the digits of an exponent after its sign, `down` if that is a minus -/
def scanUnsigned (negative : Bool) (digits : Nat) (shift : Int) (down : Bool) (cs : Input) :
    Except Fault (Number × Input) :=
  match cs with
  | [] => .error (.here .endInValue [])
  | c :: _ =>
    if isDigit c then
      let (n, beyond, rest) := scanExponentDigits 0 cs
      if beyond then
        if digits ≠ 0 ∧ down = false then .error (.here .numberOutOfRange rest)
        else floatOf negative 0 0 (rest.dropWhile isDigit)
      else floatOf negative digits (shift + (if down then -(n : Int) else n)) rest
    else .error (.onNext .invalidNumber cs)

theorem scanExponent_unsigned (negative : Bool) (digits : Nat) (shift : Int) {c : Char} (hplus : c ≠ '+')
    (hminus : c ≠ '-') (cs : Input) :
    scanExponent negative digits shift (c :: cs) = scanUnsigned negative digits shift false (c :: cs) := by
  simp [scanExponent, scanUnsigned, hplus, hminus]

theorem scanUnsigned_append (hr : Delimited rest) {negative : Bool} {digits : Nat} {shift : Int} {down : Bool}
    {cs tail : Input} {n : Number} (h : scanUnsigned negative digits shift down cs = .ok (n, tail)) :
    scanUnsigned negative digits shift down (cs ++ rest) = .ok (n, tail ++ rest) := by
  cases cs with
  | nil => cases h
  | cons c cs =>
    simp only [scanUnsigned, List.cons_append] at h ⊢
    rw [← List.cons_append, scanExponentDigits_append hr]
    rcases hd : scanExponentDigits 0 (c :: cs) with ⟨exponent, beyond, after⟩
    rw [hd] at h
    dsimp only at h ⊢
    split_ifs at h ⊢
    · rw [dropWhile_stop hr.not_digit]
      exact floatOf_append h rest
    · exact floatOf_append h rest
    · exact floatOf_append h rest

theorem scanExponent_append (hr : Delimited rest) {negative : Bool} {digits : Nat} {shift : Int} {cs tail : Input}
    {n : Number} (h : scanExponent negative digits shift cs = .ok (n, tail)) :
    scanExponent negative digits shift (cs ++ rest) = .ok (n, tail ++ rest) := by
  cases cs with
  | nil => cases h
  | cons c cs =>
    by_cases hplus : c = '+'
    · subst hplus
      exact scanUnsigned_append hr h
    · by_cases hminus : c = '-'
      · subst hminus
        exact scanUnsigned_append hr h
      · rw [scanExponent_unsigned _ _ _ hplus hminus] at h
        rw [List.cons_append, scanExponent_unsigned _ _ _ hplus hminus]
        exact scanUnsigned_append hr h

theorem scanFraction_append (hr : Delimited rest) {negative : Bool} {whole left : Nat} {cs tail : Input}
    {n : Number} (h : scanFraction negative whole left cs = .ok (n, tail)) :
    scanFraction negative whole left (cs ++ rest) = .ok (n, tail ++ rest) := by
  unfold scanFraction at h ⊢
  rw [takeWhile_stop hr.not_digit, dropWhile_stop hr.not_digit]
  dsimp only at h ⊢
  cases hf : cs.takeWhile isDigit with
  | nil =>
    rw [hf] at h
    cases hd : cs.dropWhile isDigit <;> rw [hd] at h <;> cases h
  | cons d fraction =>
    rw [hf] at h
    cases hd : cs.dropWhile isDigit with
    | nil =>
      rw [hd] at h
      cases rest with
      | nil => simpa using h
      | cons c rest =>
        rcases hr c rfl with rfl | rfl | rfl | rfl <;> exact floatOf_append h _
    | cons c after =>
      rw [hd] at h
      by_cases hlower : c = 'e'
      · subst hlower
        exact scanExponent_append hr h
      · by_cases hupper : c = 'E'
        · subst hupper
          exact scanExponent_append hr h
        · simp only [List.cons_append, List.cons.injEq, hlower, hupper, false_and, false_implies, implies_true] at h ⊢
          exact floatOf_append h rest

/-- **A number ends where a comma, a closing bracket or a line break comes.** -/
theorem scanNumber_append (hr : Delimited rest) {negative : Bool} {cs tail : Input} {n : Number}
    (h : scanNumber negative cs = .ok (n, tail)) : scanNumber negative (cs ++ rest) = .ok (n, tail ++ rest) := by
  cases cs with
  | nil => cases h
  | cons c cs =>
    simp only [scanNumber, List.cons_append] at h ⊢
    rw [← List.cons_append, takeWhile_stop hr.not_digit]
    by_cases hc : isDigit c = true
    · rw [if_pos hc] at h ⊢
      set whole := if c = '0' then ['0'] else (c :: cs).takeWhile isDigit with hw
      have hle : whole.length ≤ (c :: cs).length := by
        rw [hw]
        split_ifs
        · simp
        · exact (List.takeWhile_prefix _).length_le
      rw [List.drop_append_of_le_length hle]
      cases hd : (c :: cs).drop whole.length with
      | nil =>
        rw [hd] at h
        cases rest with
        | nil => simpa using h
        | cons d rest => rcases hr d rfl with rfl | rfl | rfl | rfl <;> exact wholeNumber_append h _
      | cons d after =>
        rw [hd] at h
        by_cases hpoint : d = '.'
        · subst hpoint
          exact scanFraction_append hr h
        · by_cases hlower : d = 'e'
          · subst hlower
            exact scanExponent_append hr h
          · by_cases hupper : d = 'E'
            · subst hupper
              exact scanExponent_append hr h
            · simp only [List.cons_append] at h ⊢
              split_ifs at h ⊢
              exact wholeNumber_append h rest
    · rw [if_neg hc] at h
      cases h

/-- a scanned number that is taken as a value of a type -/
def taken {α : Type} (take : Number → Except Cause α) : Except Fault (Number × Input) → Except Fault (α × Input)
  | .ok (n, cs) =>
    match take n with
    | .ok a => .ok (a, cs)
    | .error cause => .error (.here cause cs)
  | .error f => .error f

variable {α : Type} {expected : String} {take : Number → Except Cause α} {a : α}

theorem readNumber_eq (expected : String) (take : Number → Except Cause α) (cs : Input) :
    readNumber expected take cs =
      match skipSpace cs with
      | '-' :: cs => taken take (scanNumber true cs)
      | c :: cs => if isDigit c then taken take (scanNumber false (c :: cs)) else .error (mismatch expected (c :: cs))
      | [] => .error (.here .endInValue []) := rfl

theorem taken_append (hr : Delimited rest) {negative : Bool} {cs tail : Input}
    (h : taken take (scanNumber negative cs) = .ok (a, tail)) :
    taken take (scanNumber negative (cs ++ rest)) = .ok (a, tail ++ rest) := by
  cases hs : scanNumber negative cs with
  | error f =>
    rw [hs] at h
    cases h
  | ok scanned =>
    obtain ⟨n, after⟩ := scanned
    rw [hs] at h
    rw [scanNumber_append hr hs]
    unfold taken at h ⊢
    dsimp only at h ⊢
    split at h
    · cases h
      rfl
    · cases h

/-- a number that is taken as a value of a type ends there as well -/
theorem readNumber_append (hr : Delimited rest) {cs tail : Input}
    (h : readNumber expected take cs = .ok (a, tail)) :
    readNumber expected take (cs ++ rest) = .ok (a, tail ++ rest) := by
  rw [readNumber_eq] at h ⊢
  cases hc : skipSpace cs with
  | nil =>
    rw [hc] at h
    cases h
  | cons c after =>
    have hskip : skipSpace (cs ++ rest) = c :: after ++ rest := by
      rw [← hc]
      exact skipSpace_append (by rw [hc]; exact List.cons_ne_nil c after) rest
    rw [hskip]
    rw [hc] at h
    by_cases hminus : c = '-'
    · subst hminus
      exact taken_append hr h
    · simp only [List.cons_append] at h ⊢
      split_ifs at h ⊢
      exact taken_append hr h

end

/-! ## Whole numbers -/

theorem le_foldl_digits (ds : List Char) (n : Nat) : n ≤ ds.foldl (fun n d => n * 10 + (d.toNat - 48)) n := by
  induction ds generalizing n with
  | nil => exact Nat.le_refl n
  | cons d ds ih =>
    calc n ≤ n * 10 + (d.toNat - 48) := by omega
      _ ≤ _ := ih _

theorem leadingDigits_foldl {ds : List Char} {n : Nat}
    (hn : ds.foldl (fun n d => n * 10 + (d.toNat - 48)) n < UInt64.size) :
    leadingDigits n ds = (ds.foldl (fun n d => n * 10 + (d.toNat - 48)) n, 0) := by
  induction ds generalizing n with
  | nil => rfl
  | cons d ds ih =>
    have hfirst : n * 10 + (d.toNat - 48) < UInt64.size := Nat.lt_of_le_of_lt (le_foldl_digits ds _) hn
    simp only [leadingDigits, hfirst, if_true]
    exact ih hn

/-- no digit of a number of 64 bits is left out -/
theorem leadingDigits_natText {n : Nat} (hn : n < UInt64.size) : leadingDigits 0 (natText n) = (n, 0) := by
  have hvalue := digitsValue_natText n
  unfold digitsValue at hvalue
  rw [leadingDigits_foldl (by omega), hvalue]

/-- the digits of a number of 64 bits are scanned as that number -/
theorem scanNumber_natText {n : Nat} (hn : n < UInt64.size) (negative : Bool) :
    scanNumber negative (natText n) = wholeNumber negative n 0 [] := by
  cases hd : natText n with
  | nil => exact absurd hd (natText_ne_nil n)
  | cons c cs =>
    have hc : isDigit c = true := isDigit_natText (by rw [hd]; exact List.mem_cons_self)
    have hwhole : (if c = '0' then ['0'] else (c :: cs).takeWhile isDigit) = c :: cs := by
      split_ifs with hzero
      · have hn0 : n = 0 := by
          by_contra hne
          exact natText_head hne (by rw [hd, hzero]; rfl)
        subst hn0
        exact hd
      · rw [← hd, takeWhile_natText]
    have hlead := leadingDigits_natText hn
    rw [hd] at hlead
    simp only [scanNumber, hc, if_true, hwhole, hlead, List.drop_length]

/-- the digits of a whole number of 64 bits are that number -/
theorem wholeNumber_natAbs {i : Int} (hlo : Int64.minValue.toInt ≤ i) :
    wholeNumber (decide (i < 0)) i.natAbs 0 [] = .ok (.ofInt i, []) := by
  have hmin : Int64.minValue.toInt = -9223372036854775808 := rfl
  unfold wholeNumber Number.ofInt
  by_cases hneg : i < 0
  · have hmagnitude : i.natAbs ≠ 0 ∧ i.natAbs ≤ 9223372036854775808 := by omega
    have hvalue : -(i.natAbs : Int) = i := by omega
    rw [decide_eq_true hneg, if_neg (by omega : ¬0 ≤ i), if_pos hmagnitude, hvalue]
    rfl
  · have hvalue : i.toNat = i.natAbs := by omega
    rw [decide_eq_false hneg, if_pos (by omega : 0 ≤ i), hvalue]
    rfl

/-- **A whole number of 64 bits is read back from its digits.** -/
theorem readNumber_intText {α : Type} {expected : String} {take : Number → Except Cause α} {a : α} {i : Int}
    (hlo : Int64.minValue.toInt ≤ i) (hhi : i < UInt64.size) (ht : take (.ofInt i) = .ok a) :
    readNumber expected take (intText i) = .ok (a, []) := by
  have hsize : i.natAbs < UInt64.size := by
    have hmin : Int64.minValue.toInt = -9223372036854775808 := rfl
    have hmax : UInt64.size = 18446744073709551616 := rfl
    omega
  have hwhole := wholeNumber_natAbs hlo
  rw [← scanNumber_natText hsize] at hwhole
  have htaken : taken take (scanNumber (decide (i < 0)) (natText i.natAbs)) = .ok (a, []) := by
    simp only [hwhole, taken, ht]
  rw [readNumber_eq]
  unfold intText
  by_cases hneg : i < 0
  · rw [decide_eq_true hneg] at htaken
    rw [if_pos hneg, skipSpace_cons (by decide)]
    exact htaken
  · rw [decide_eq_false hneg] at htaken
    rw [if_neg hneg]
    cases hd : natText i.natAbs with
    | nil => exact absurd hd (natText_ne_nil _)
    | cons c cs =>
      have hc : isDigit c = true := isDigit_natText (by rw [hd]; exact List.mem_cons_self)
      have hspace : isSpace c = false := not_space_of_digit hc
      have hminus : c ≠ '-' := by
        rintro rfl
        exact absurd hc (by decide)
      rw [hd] at htaken
      rw [skipSpace_cons hspace]
      simp only [hc, if_true]
      exact htaken

theorem toInt?_ofInt {i : Int} (hlo : Int64.minValue.toInt ≤ i) (hhi : i < UInt64.size) :
    (Number.ofInt i).toInt? = some i := by
  have hmin : Int64.minValue.toInt = -9223372036854775808 := rfl
  have hmax : UInt64.size = 18446744073709551616 := rfl
  unfold Number.ofInt
  split_ifs with hi
  · simp only [Number.toInt?, UInt64.toNat_ofNat', Option.some.injEq]
    omega
  · simp only [Number.toInt?, Option.some.injEq]
    exact Int64.toInt_ofInt_of_le (by omega) (by omega)

end ChainFeed.Json
