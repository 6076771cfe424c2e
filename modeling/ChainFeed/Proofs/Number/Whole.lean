/-
The texts that stand for numbers.

- `readNat?_eq_some`: a natural number is read from digits, of which there is at least one.
- `natText_digitsValue`: digits are the text of their number unless they start with a zero too many.
- `intText_of_readInt?`: a text that is read as a whole number is the text of the number, but for a plus, zeros too many
  and a minus before zero.
- `isNumberChar_of_readFloat?`: a double is read from one of a few words, or from characters that stand in numbers.
-/
import ChainFeed.Proofs.Number.Digits
import Mathlib.Data.List.Induction

namespace ChainFeed

/-! ## Natural numbers -/

theorem isDigit_iff {c : Char} : isDigit c = true ↔ 48 ≤ c.toNat ∧ c.toNat ≤ 57 := by
  simp only [isDigit, Bool.and_eq_true, decide_eq_true_eq]
  rfl

/-- the digits of base ten -/
theorem decimalValue_eq (c : Char) :
    (hexValue? c).filter (fun d => d < 10) = if isDigit c = true then some (c.toNat - 48) else none := by
  unfold hexValue?
  by_cases hdigit : isDigit c = true
  · have hbounds := isDigit_iff.1 hdigit
    have hlt : c.toNat - 48 < 10 := by omega
    have hrange : '0' ≤ c ∧ c ≤ '9' := hbounds
    rw [if_pos hdigit, if_pos hrange, Option.filter_some, if_pos (decide_eq_true hlt)]
  · have hrange : ¬('0' ≤ c ∧ c ≤ '9') := fun h => hdigit (isDigit_iff.2 h)
    rw [if_neg hdigit, if_neg hrange]
    -- letters stand for ten and more
    split_ifs with hsmall hlarge
    · have hle : 97 ≤ c.toNat := hsmall.1
      have hge : ¬(c.toNat - 87 < 10) := by omega
      rw [Option.filter_some, if_neg (by simpa using hge)]
    · have hle : 65 ≤ c.toNat := hlarge.1
      have hge : ¬(c.toNat - 55 < 10) := by omega
      rw [Option.filter_some, if_neg (by simpa using hge)]
    · rfl

theorem ofDigits?_eq_some {n m : Nat} {cs : List Char} : ofDigits? 10 n cs = some m ↔
    (∀ c ∈ cs, isDigit c = true) ∧ m = cs.foldl (fun n d => n * 10 + (d.toNat - 48)) n := by
  induction cs generalizing n with
  | nil =>
    rw [ofDigits?, Option.some.injEq]
    exact ⟨fun h => ⟨by simp, h.symm⟩, fun h => h.2.symm⟩
  | cons c cs ih =>
    rw [ofDigits?, decimalValue_eq, List.forall_mem_cons, List.foldl_cons]
    by_cases hc : isDigit c = true
    · rw [if_pos hc, and_assoc, and_iff_right hc]
      exact ih
    · rw [if_neg hc]
      constructor
      · intro hnone
        cases hnone
      · rintro ⟨⟨hd, -⟩, -⟩
        exact absurd hd hc

/-- **A natural number is read from digits.** -/
theorem readNat?_eq_some {n : Nat} {cs : List Char} :
    readNat? 10 cs = some n ↔ cs ≠ [] ∧ (∀ c ∈ cs, isDigit c = true) ∧ n = digitsValue cs := by
  rcases cs with _ | ⟨c, cs⟩
  · simp [readNat?]
  · rw [readNat?, ofDigits?_eq_some, and_iff_right (List.cons_ne_nil c cs)]
    · rfl
    · simp

theorem digitChar_of_isDigit {c : Char} (hc : isDigit c = true) : (c.toNat - 48).digitChar = c := by
  have hbounds := isDigit_iff.1 hc
  have hall : ∀ n < 10, n.digitChar = Char.ofNat (48 + n) := by decide
  rw [hall _ (by omega), show 48 + (c.toNat - 48) = c.toNat by omega, Char.ofNat_toNat]

/-- **Digits are the text of their number**, unless they start with a zero too many. -/
theorem natText_digitsValue {ds : List Char} (hne : ds ≠ []) (hd : ∀ c ∈ ds, isDigit c = true) :
    natText (digitsValue ds) = ds ↔ (ds.head? = some '0' → ds = ['0']) := by
  constructor
  · intro htext hzero
    by_cases hn : digitsValue ds = 0
    · rw [← htext, hn]
      rfl
    · rw [← htext] at hzero
      exact absurd hzero (natText_head hn)
  · intro hplain
    -- by induction on the digits from the last one on, which is the last digit of the text
    induction ds using List.reverseRecOn with
    | nil => exact absurd rfl hne
    | append_singleton ds c ih =>
      have hc : isDigit c = true := hd c (by simp)
      have hvalue : digitsValue (ds ++ [c]) = digitsValue ds * 10 + (c.toNat - 48) := by simp [digitsValue]
      have hbounds := isDigit_iff.1 hc
      have hlt : c.toNat - 48 < 10 := by omega
      rcases ds with _ | ⟨d, ds⟩
      · rw [hvalue, show digitsValue [] = 0 from rfl, Nat.zero_mul, Nat.zero_add, natText_digit hlt,
          digitChar_of_isDigit hc]
        rfl
      · have hfirst : d ≠ '0' := by
          rintro rfl
          have hall := hplain rfl
          simp at hall
        have hbefore := ih (by simp) (fun x hx => hd x (by simp at hx ⊢; tauto)) (by simp [hfirst])
        have hpositive : digitsValue (d :: ds) ≠ 0 := by
          intro hzero
          rw [hzero] at hbefore
          have hd' : d = '0' := (List.cons.inj hbefore).1.symm
          exact hfirst hd'
        rw [hvalue, natText_step (by omega), show (digitsValue (d :: ds) * 10 + (c.toNat - 48)) / 10 =
          digitsValue (d :: ds) by omega, show (digitsValue (d :: ds) * 10 + (c.toNat - 48)) % 10 = c.toNat - 48 by omega,
          hbefore, digitChar_of_isDigit hc]

/-! ## Whole numbers -/

/-- no plus stands before a number, and no zero before other digits or after a minus -/
def IsPlainInt (cs : List Char) : Prop :=
  cs.head? ≠ some '+' ∧ ((readSign cs).2.head? = some '0' → cs = ['0'])

instance (cs : List Char) : Decidable (IsPlainInt cs) :=
  inferInstanceAs (Decidable (_ ∧ _))

theorem readInt?_eq_some {cs : List Char} {i : Int} : readInt? 10 cs = some i ↔
    ∃ n, readNat? 10 (readSign cs).2 = some n ∧ i = if (readSign cs).1 then -(n : Int) else n := by
  unfold readInt?
  rcases readSign cs with ⟨negative, digits⟩
  simp only [Option.map_eq_some_iff, Option.bind_eq_bind, Option.bind_eq_some_iff, Option.pure_def, Option.some.injEq]
  constructor
  · rintro ⟨_, ⟨n, hn, rfl⟩, rfl⟩
    exact ⟨n, hn, rfl⟩
  · rintro ⟨n, hn, rfl⟩
    exact ⟨n, ⟨n, hn, rfl⟩, rfl⟩

theorem readSign_cases (cs : List Char) :
    (∃ ds, cs = '-' :: ds ∧ readSign cs = (true, ds)) ∨ (∃ ds, cs = '+' :: ds ∧ readSign cs = (false, ds)) ∨
      cs.head? ≠ some '+' ∧ readSign cs = (false, cs) := by
  unfold readSign
  split
  · exact Or.inl ⟨_, rfl, rfl⟩
  · exact Or.inr (Or.inl ⟨_, rfl, rfl⟩)
  · rename_i hplus
    refine Or.inr (Or.inr ⟨fun hhead => ?_, rfl⟩)
    obtain ⟨ds, rfl⟩ := List.head?_eq_some_iff.1 hhead
    exact hplus ds rfl

theorem intText_ofNat (n : Nat) : intText n = natText n := by
  rw [intText, if_neg (by omega), Int.natAbs_natCast]

/-- **What is read as a whole number is the text of the number** if it is plain. -/
theorem intText_of_readInt? {cs : List Char} {i : Int} (hr : readInt? 10 cs = some i) :
    intText i = cs ↔ IsPlainInt cs := by
  obtain ⟨n, hn, rfl⟩ := readInt?_eq_some.1 hr
  obtain ⟨hne, hd, rfl⟩ := readNat?_eq_some.1 hn
  have htext := natText_digitsValue hne hd
  unfold IsPlainInt
  rcases readSign_cases cs with ⟨ds, rfl, hsign⟩ | ⟨ds, rfl, hsign⟩ | ⟨hplus, hsign⟩
  · -- a minus is written before every number but zero
    rw [hsign] at htext ⊢
    dsimp only at htext ⊢
    simp only [if_true, List.head?_cons, ne_eq, Option.some.injEq, Char.reduceEq, not_false_eq_true, true_and,
      List.cons.injEq, false_and, imp_false]
    by_cases hzero : digitsValue ds = 0
    · have hfirst : ds.head? = some '0' := by
        by_contra hfirst
        have hall := htext.2 fun h => absurd h hfirst
        rw [hzero] at hall
        rw [← hall] at hfirst
        exact hfirst rfl
      simp [hzero, hfirst, intText, natText_digit]
    · have hnegative : -(digitsValue ds : Int) < 0 := by omega
      rw [intText, if_pos hnegative, Int.natAbs_neg, Int.natAbs_natCast, List.cons.injEq, and_iff_right rfl, htext]
      constructor
      · intro hall hfirst
        rw [hall hfirst] at hzero
        exact hzero rfl
      · intro hfirst hx
        exact absurd hx hfirst
  · -- no text of a number starts with a plus
    rw [hsign]
    simp only [Bool.false_eq_true, if_false, List.head?_cons, ne_eq, not_true_eq_false, false_and, iff_false, intText_ofNat]
    intro hall
    have hdigit := isDigit_natText (n := digitsValue ds) (c := '+') (by rw [hall]; simp)
    exact absurd hdigit (by decide)
  · rw [hsign] at htext ⊢
    rw [if_neg Bool.false_ne_true, intText_ofNat, htext, and_iff_right hplus]

/-! ## Doubles -/

/-- the characters that stand in numbers -/
def isNumberChar (c : Char) : Bool :=
  isDigit c || c = '+' || c = '-' || c = '.' || c = 'e' || c = 'E'

theorem isNumberChar_of_isDigit {c : Char} (hc : isDigit c = true) : isNumberChar c = true := by
  simp [isNumberChar, hc]

theorem isNumberChar_of_readSign {cs : List Char} (hd : ∀ c ∈ (readSign cs).2, isNumberChar c = true) :
    ∀ c ∈ cs, isNumberChar c = true := by
  rcases readSign_cases cs with ⟨ds, rfl, hsign⟩ | ⟨ds, rfl, hsign⟩ | ⟨-, hsign⟩
  · exact List.forall_mem_cons.2 ⟨by decide, by simpa [hsign] using hd⟩
  · exact List.forall_mem_cons.2 ⟨by decide, by simpa [hsign] using hd⟩
  · simpa [hsign] using hd

theorem isNumberChar_of_readInt? {cs : List Char} {i : Int} (hr : readInt? 10 cs = some i) :
    ∀ c ∈ cs, isNumberChar c = true := by
  obtain ⟨n, hn, -⟩ := readInt?_eq_some.1 hr
  exact isNumberChar_of_readSign fun c hc => isNumberChar_of_isDigit ((readNat?_eq_some.1 hn).2.1 c hc)

theorem isNumberChar_of_readExponent? {cs : List Char} {i : Int} (hr : readExponent? cs = some i) :
    ∀ c ∈ cs, isNumberChar c = true := by
  rcases cs with _ | ⟨c, cs⟩
  · simp
  · rw [readExponent?] at hr
    split_ifs at hr with hc
    refine List.forall_mem_cons.2 ⟨?_, isNumberChar_of_readInt? hr⟩
    rcases hc with rfl | rfl <;> decide

theorem isNumberChar_of_readMagnitude? {negative : Bool} {cs : List Char} {x : Float}
    (hr : readMagnitude? negative cs = some x) : ∀ c ∈ cs, isNumberChar c = true := by
  have hdigits : ∀ ds : List Char, ∀ c ∈ ds.takeWhile isDigit, isNumberChar c = true :=
    fun ds c hc => isNumberChar_of_isDigit (List.mem_takeWhile_imp hc)
  have hrest : ∀ c ∈ cs.dropWhile isDigit, isNumberChar c = true := by
    unfold readMagnitude? at hr
    dsimp only at hr
    split at hr
    · rename_i digits hpoint
      obtain ⟨exponent, hexponent, -⟩ := Option.bind_eq_some_iff.1 hr
      have hlast := isNumberChar_of_readExponent? hexponent
      rw [hpoint, ← List.takeWhile_append_dropWhile (p := isDigit) (l := digits)]
      exact List.forall_mem_cons.2 ⟨by decide, List.forall_mem_append.2 ⟨hdigits digits, hlast⟩⟩
    · obtain ⟨exponent, hexponent, -⟩ := Option.bind_eq_some_iff.1 hr
      exact isNumberChar_of_readExponent? hexponent
  rw [← List.takeWhile_append_dropWhile (p := isDigit) (l := cs)]
  exact List.forall_mem_append.2 ⟨hdigits cs, hrest⟩

/-- the words for doubles, in small letters -/
def floatWords : List String := ["inf", "infinity", "nan"]

/-- **A double is read from a word, or from characters that stand in numbers.** -/
theorem isNumberChar_of_readFloat? {cs : List Char} {x : Float} (hr : readFloat? cs = some x)
    (hw : String.ofList ((readSign cs).2.map Char.toLower) ∉ floatWords) : ∀ c ∈ cs, isNumberChar c = true := by
  refine isNumberChar_of_readSign ?_
  simp only [floatWords, List.mem_cons, List.not_mem_nil, or_false, not_or] at hw
  unfold readFloat? at hr
  simp only [hw.1, hw.2.1, hw.2.2, decide_false, Bool.or_false, Bool.false_eq_true, if_false] at hr
  exact isNumberChar_of_readMagnitude? hr

end ChainFeed
