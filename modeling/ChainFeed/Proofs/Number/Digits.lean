/-
The digits of a number lead back to the number.

- `natText_head`: no number but zero starts with a zero.
- `digitsValue_natText`: the decimal digits of a number stand for it.
- `hexValue_toDigits`: so do its hexadecimal digits.
- `takeWhile_stop`, `dropWhile_stop`: what follows a word does not change where the word ends.
-/
import Mathlib.Data.List.Basic
import Mathlib.Data.List.TakeWhile
import ChainFeed.Number.Reading
import ChainFeed.Number.Text

namespace ChainFeed

/-! ## Words and what follows them -/

section

variable {α : Type} {p : α → Bool} {rest : List α}

/-- the list does not go on with an element of a kind -/
def Stops (p : α → Bool) (rest : List α) : Prop :=
  ∀ a ∈ rest.head?, p a = false

theorem Stops.takeWhile (hr : Stops p rest) : rest.takeWhile p = [] := by
  cases rest with
  | nil => rfl
  | cons a rest => simp [hr a (by simp)]

theorem Stops.dropWhile (hr : Stops p rest) : rest.dropWhile p = rest := by
  cases rest with
  | nil => rfl
  | cons a rest => simp [hr a (by simp)]

theorem takeWhile_stop (hr : Stops p rest) (word : List α) : (word ++ rest).takeWhile p = word.takeWhile p := by
  rw [List.takeWhile_append, hr.takeWhile, List.append_nil]
  split_ifs with hw
  · exact (List.IsPrefix.eq_of_length (List.takeWhile_prefix p) hw).symm
  · rfl

theorem dropWhile_stop (hr : Stops p rest) (word : List α) :
    (word ++ rest).dropWhile p = word.dropWhile p ++ rest := by
  induction word with
  | nil => exact hr.dropWhile
  | cons a word ih =>
    simp only [List.cons_append, List.dropWhile_cons]
    split_ifs
    · exact ih
    · rfl

end

/-! ## Decimal digits -/

theorem isDigit_natText {n : Nat} {c : Char} (hc : c ∈ natText n) : isDigit c = true := by
  have hdigit := Nat.isDigit_of_mem_toDigits (by decide) (by decide) hc
  simp only [Char.isDigit, Bool.and_eq_true, decide_eq_true_eq] at hdigit
  simp only [isDigit, Bool.and_eq_true, decide_eq_true_eq]
  exact hdigit

theorem takeWhile_natText (n : Nat) : (natText n).takeWhile isDigit = natText n :=
  List.takeWhile_eq_self_iff.2 fun _ hc => isDigit_natText hc

theorem natText_ne_nil (n : Nat) : natText n ≠ [] := Nat.toDigits_ne_nil

/-- a number from ten on is written as its tenth and one more digit -/
theorem natText_step {n : Nat} (hn : 10 ≤ n) : natText n = natText (n / 10) ++ [(n % 10).digitChar] :=
  Nat.toDigits_of_base_le (by decide) hn

theorem natText_digit {n : Nat} (hn : n < 10) : natText n = [n.digitChar] := Nat.toDigits_of_lt_base hn

theorem digitChar_ne_zero : ∀ n < 10, n ≠ 0 → n.digitChar ≠ '0' := by decide

theorem toNat_digitChar : ∀ n < 10, n.digitChar.toNat - 48 = n := by decide

/-- no number but zero starts with a zero -/
theorem natText_head {n : Nat} (hn : n ≠ 0) : (natText n).head? ≠ some '0' := by
  induction n using Nat.strongRecOn with
  | ind n ih =>
    by_cases hlt : n < 10
    · simpa [natText_digit hlt] using digitChar_ne_zero n hlt hn
    · have htenth : n / 10 ≠ 0 := by omega
      rw [natText_step (by omega), List.head?_append_of_ne_nil _ (natText_ne_nil _)]
      exact ih (n / 10) (by omega) htenth

/-- **The digits of a number stand for it.** -/
theorem digitsValue_natText (n : Nat) : digitsValue (natText n) = n := by
  induction n using Nat.strongRecOn with
  | ind n ih =>
    by_cases hlt : n < 10
    · simp [natText_digit hlt, digitsValue, toNat_digitChar n hlt]
    · have hlast : n % 10 < 10 := Nat.mod_lt _ (by decide)
      have htenth := ih (n / 10) (by omega)
      unfold digitsValue at htenth ⊢
      rw [natText_step (by omega), List.foldl_append, htenth]
      simp only [List.foldl_cons, List.foldl_nil, toNat_digitChar _ hlast]
      omega

/-! ## Hexadecimal digits -/

theorem hexValue?_digitChar : ∀ n < 16, hexValue? n.digitChar = some n := by decide

theorem isSome_hexValue? {n : Nat} {c : Char} (hc : c ∈ Nat.toDigits 16 n) : (hexValue? c).isSome = true := by
  induction n using Nat.strongRecOn with
  | ind n ih =>
    rw [Nat.toDigits_eq_if (by decide)] at hc
    split_ifs at hc with hlt
    · rw [List.mem_singleton.1 hc, hexValue?_digitChar n hlt]
      rfl
    · rcases List.mem_append.1 hc with hc | hc
      · exact ih (n / 16) (by omega) hc
      · rw [List.mem_singleton.1 hc, hexValue?_digitChar _ (Nat.mod_lt _ (by decide))]
        rfl

/-- **The hexadecimal digits of a number stand for it.** -/
theorem hexValue_toDigits (n : Nat) :
    (Nat.toDigits 16 n).foldl (fun n c => n * 16 + (hexValue? c).getD 0) 0 = n := by
  induction n using Nat.strongRecOn with
  | ind n ih =>
    rw [Nat.toDigits_eq_if (by decide)]
    split_ifs with hlt
    · simp [hexValue?_digitChar n hlt]
    · rw [List.foldl_append, ih (n / 16) (by omega)]
      simp only [List.foldl_cons, List.foldl_nil, hexValue?_digitChar _ (Nat.mod_lt n (by decide)), Option.getD_some]
      omega

end ChainFeed
