/-
Strings are read back as they were written.

- `scanString_escape`: the scanner undoes the escapes of a written string and stops after its closing quote.
- `string_exact`: so a string is read back, whatever comes after it.
- `nextMember_comma` and others: what the punctuation of a written object is read as.
-/
import Mathlib.Data.List.Basic
import ChainFeed.Json.Record

namespace ChainFeed.Json

/-! ## Strings -/

/-- the two digits of a control character -/
theorem hexValue?_hexDigit {n : Nat} (hn : n < 16) : hexValue? (hexDigit n) = some n := by
  revert hn
  revert n
  decide

/-- the code of a control character reads back -/
theorem scanHex_control {n : Nat} (hn : n < 32) (rest : Input) :
    scanHex ('0' :: '0' :: hexDigit (n / 16) :: hexDigit (n % 16) :: rest) = .ok (n, rest) := by
  have h0 : hexValue? '0' = some 0 := by decide
  have hhi : hexValue? (hexDigit (n / 16)) = some (n / 16) := hexValue?_hexDigit (by omega)
  have hlo : hexValue? (hexDigit (n % 16)) = some (n % 16) := hexValue?_hexDigit (by omega)
  have hv : ((0 * 16 + 0) * 16 + n / 16) * 16 + n % 16 = n := by omega
  simp only [scanHex, hexFour?, h0, hhi, hlo, hv]

theorem scanUnicode_control {c : Char} (hc : c.toNat < 32) (rest : Input) :
    scanUnicode ('0' :: '0' :: hexDigit (c.toNat / 16) :: hexDigit (c.toNat % 16) :: rest) = .ok (c, rest) := by
  have hlow : ¬(0xDC00 ≤ c.toNat ∧ c.toNat ≤ 0xDFFF) := by omega
  have hone : c.toNat < 0xD800 ∨ 0xDBFF < c.toNat := by omega
  simp [scanUnicode, scanHex_control hc, hlow, hone, bind, Except.bind]

/-- the scanner takes a written character for what it was -/
theorem scanChars_escapeChar (fuel : Nat) (read : List Char) (c : Char) (rest : Input) :
    scanChars (fuel + 1) read (escapeChar c ++ rest) = scanChars fuel (c :: read) rest := by
  unfold escapeChar
  split_ifs with h1 h2 h3 h4 h5 h6 h7 h8
  · simp [scanChars, scanEscape, h1]
  · simp [scanChars, scanEscape, h2]
  · simp [scanChars, scanEscape, h3]
  · simp [scanChars, scanEscape, h4]
  · simp [scanChars, scanEscape, h5]
  · simp [scanChars, scanEscape, h6]
  · simp [scanChars, scanEscape, h7]
  · simp [scanChars, scanEscape, scanUnicode_control h8]
  · simp [scanChars, h1, h2, h8]

theorem length_escapeChar_pos (c : Char) : 0 < (escapeChar c).length := by
  unfold escapeChar
  split_ifs <;> simp

theorem length_le_escape (cs : List Char) : cs.length ≤ (escape cs).length := by
  induction cs with
  | nil => simp
  | cons c cs ih =>
    have hc := length_escapeChar_pos c
    simp only [escape, List.flatMap_cons, List.length_append, List.length_cons] at ih ⊢
    omega

theorem scanChars_escape (cs read : List Char) (rest : Input) {fuel : Nat} (hf : cs.length < fuel) :
    scanChars fuel read (escape cs ++ '"' :: rest) = .ok (read.reverse ++ cs, rest) := by
  induction cs generalizing read fuel with
  | nil =>
    obtain ⟨n, rfl⟩ : ∃ n, fuel = n + 1 := ⟨fuel - 1, by simp at hf; omega⟩
    simp [escape, scanChars]
  | cons c cs ih =>
    obtain ⟨n, rfl⟩ : ∃ n, fuel = n + 1 := ⟨fuel - 1, by simp at hf; omega⟩
    have he : escape (c :: cs) ++ '"' :: rest = escapeChar c ++ (escape cs ++ '"' :: rest) := by
      simp [escape]
    rw [he, scanChars_escapeChar, ih (c :: read) (by simpa using hf)]
    simp

/-- **The scanner undoes the escapes of a string.** -/
theorem scanString_escape (s : String) (rest : Input) :
    scanString (escape s.toList ++ '"' :: rest) = .ok (s, rest) := by
  have hl := length_le_escape s.toList
  unfold scanString
  rw [scanChars_escape s.toList [] rest (by simp only [List.length_append, List.length_cons]; omega)]
  simp [Except.map]

/-! ## Codecs -/

/-- what is written reads back, and what follows it is left -/
def Codec.Exact {α : Type} (c : Codec α) : Prop :=
  ∀ a rest, c.read (c.write a ++ rest) = .ok (a, rest)

theorem string_exact : Codec.Exact string := by
  intro s rest
  have hq : string.write s ++ rest = '"' :: (escape s.toList ++ '"' :: rest) := by simp [string, quote]
  have hs : skipSpace ('"' :: (escape s.toList ++ '"' :: rest)) = '"' :: (escape s.toList ++ '"' :: rest) := by
    simp [skipSpace, isSpace]
  rw [hq]
  simp only [string, readString, hs, scanString_escape]

/-! ## Punctuation of objects -/

theorem skipSpace_cons {c : Char} (hc : isSpace c = false) (cs : Input) : skipSpace (c :: cs) = c :: cs := by
  simp [skipSpace, hc]

/-- what comes after a word does not change which blanks stand before it -/
theorem skipSpace_append {cs : Input} (hcs : skipSpace cs ≠ []) (rest : Input) :
    skipSpace (cs ++ rest) = skipSpace cs ++ rest := by
  unfold skipSpace at hcs ⊢
  rw [List.dropWhile_append, if_neg (by simpa using hcs)]

/-- nothing but characters that may stand between the words of a text -/
def Blank (gap : List Char) : Prop :=
  ∀ c ∈ gap, isSpace c = true

theorem blank_nil : Blank [] := by
  intro c hc
  cases hc

theorem Blank.skipSpace {gap : List Char} (hgap : Blank gap) (cs : Input) :
    Json.skipSpace (gap ++ cs) = Json.skipSpace cs :=
  List.dropWhile_append_of_pos hgap

section

variable {gap : List Char}

theorem nextMember_quote (hgap : Blank gap) (cs : Input) : nextMember true (gap ++ '"' :: cs) = .ok (true, cs) := by
  simp [nextMember, hgap.skipSpace, skipSpace_cons (c := '"') (by decide)]

theorem nextMember_comma (hgap : Blank gap) (cs : Input) :
    nextMember false (',' :: (gap ++ '"' :: cs)) = .ok (true, cs) := by
  simp [nextMember, skipSpace_cons (c := ',') (by decide), hgap.skipSpace, skipSpace_cons (c := '"') (by decide)]

theorem nextMember_brace (hgap : Blank gap) (first : Bool) (cs : Input) :
    nextMember first (gap ++ '\x7d' :: cs) = .ok (false, '\x7d' :: cs) := by
  simp [nextMember, hgap.skipSpace, skipSpace_cons (c := '\x7d') (by decide)]

end

theorem readColon_colon (cs : Input) : readColon (':' :: cs) = .ok cs := by
  simp [readColon, skipSpace_cons (c := ':') (by decide)]

theorem endObject_brace (cs : Input) : endObject ('\x7d' :: cs) = .ok cs := by
  simp [endObject, skipSpace_cons (c := '\x7d') (by decide)]

end ChainFeed.Json
