/-
Where client text is cut for the log.

The search for the place goes back one byte at a time, from the most bytes that are shown, until it finds a boundary
between two characters. Main statements:
- `isBoundary_iff`: the boundaries are the places at which the bytes of a text can be parted into two texts.
- `exists_isBoundary_near`: of four places in a row within a text one is a boundary, as no character has more bytes.
- `searchBack_eq`: so the search never comes to the first byte.
- `excerpt_longest`: an excerpt is the longest start of a text that has 40 bytes at most.
-/
import ChainFeed.Text.Excerpt
import Mathlib.Tactic.SplitIfs

namespace ChainFeed

/-! ## Bytes -/

theorem byteCount_cons (c : Char) (cs : List Char) : byteCount (c :: cs) = c.utf8Size + byteCount cs := rfl

theorem byteCount_append (as bs : List Char) : byteCount (as ++ bs) = byteCount as + byteCount bs := by
  induction as with
  | nil => simp [byteCount]
  | cons c as ih => rw [List.cons_append, byteCount_cons, byteCount_cons, ih, Nat.add_assoc]

/-- the bytes of a text are those of its characters -/
theorem utf8ByteSize_ofList (cs : List Char) : (String.ofList cs).utf8ByteSize = byteCount cs := by
  induction cs with
  | nil => rfl
  | cons c cs ih =>
    rw [String.ofList_cons, String.utf8ByteSize_append, String.utf8ByteSize_singleton, ih, byteCount_cons]

theorem byteCount_toList (s : String) : byteCount s.toList = s.utf8ByteSize := by
  rw [← utf8ByteSize_ofList, String.ofList_toList]

/-! ## Boundaries -/

/-- **The boundaries are the places at which the characters can be parted.** -/
theorem isBoundary_iff {cs : List Char} {n : Nat} :
    isBoundary cs n = true ↔ ∃ front back, cs = front ++ back ∧ byteCount front = n := by
  induction cs generalizing n with
  | nil =>
    cases n with
    | zero => exact iff_of_true rfl ⟨[], [], rfl, rfl⟩
    | succ n =>
      refine iff_of_false (by simp [isBoundary]) ?_
      rintro ⟨front, back, hsplit, hn⟩
      rw [(List.append_eq_nil_iff.1 hsplit.symm).1] at hn
      cases hn
  | cons c cs ih =>
    cases n with
    | zero => exact iff_of_true rfl ⟨[], c :: cs, rfl, rfl⟩
    | succ n =>
      have hstep : isBoundary (c :: cs) (n + 1) = true ↔
          c.utf8Size ≤ n + 1 ∧ isBoundary cs (n + 1 - c.utf8Size) = true := by simp [isBoundary]
      rw [hstep, ih]
      constructor
      · rintro ⟨hle, front, back, rfl, hn⟩
        exact ⟨c :: front, back, rfl, by rw [byteCount_cons]; omega⟩
      · rintro ⟨front, back, hsplit, hn⟩
        -- a front that is not empty starts with the first character
        cases front with
        | nil => cases hn
        | cons d front =>
          obtain ⟨rfl, rfl⟩ := List.cons.inj hsplit
          rw [byteCount_cons] at hn
          exact ⟨by omega, front, back, rfl, by omega⟩

/-- a boundary is a valid position in the bytes of the text -/
theorem isBoundary_toList {s : String} {n : Nat} :
    isBoundary s.toList n = true ↔ (String.Pos.Raw.mk n).IsValid s := by
  rw [isBoundary_iff, String.Pos.Raw.isValid_iff_exists_append]
  constructor
  · rintro ⟨front, back, hsplit, rfl⟩
    refine ⟨String.ofList front, String.ofList back, ?_, ?_⟩
    · rw [← String.ofList_append, ← hsplit, String.ofList_toList]
    · rw [← utf8ByteSize_ofList]
      rfl
  · rintro ⟨front, back, rfl, hn⟩
    refine ⟨front.toList, back.toList, String.toList_append, ?_⟩
    rw [byteCount_toList]
    exact (congrArg String.Pos.Raw.byteIdx hn).symm

/-- **Of four places in a row within a text one is a boundary.** -/
theorem exists_isBoundary_near {cs : List Char} {n : Nat} (hn : n < byteCount cs) :
    ∃ i, isBoundary cs i = true ∧ i ≤ n ∧ n ≤ i + 3 := by
  induction cs generalizing n with
  | nil => cases hn
  | cons c cs ih =>
    rw [byteCount_cons] at hn
    have hfour := c.utf8Size_le_four
    by_cases hc : c.utf8Size ≤ n
    · obtain ⟨i, hi, hle, hnear⟩ := ih (n := n - c.utf8Size) (by omega)
      obtain ⟨front, back, rfl, rfl⟩ := isBoundary_iff.1 hi
      exact ⟨c.utf8Size + byteCount front, isBoundary_iff.2 ⟨c :: front, back, rfl, rfl⟩, by omega, by omega⟩
    · exact ⟨0, rfl, by omega, by omega⟩

/-! ## The search -/

/-- the search for the last boundary at or before byte `n`; `none` if it would go on before the first byte -/
def searchBack (cs : List Char) : Nat → Option Nat
  | 0 => if isBoundary cs 0 then some 0 else none
  | n + 1 => if isBoundary cs (n + 1) then some (n + 1) else searchBack cs n

/-- the first `n` bytes of a text; `none` if these are no text, or the text has fewer -/
def cut? (s : String) (n : Nat) : Option String :=
  if (String.Pos.Raw.mk n).isValid s then some (String.ofList (takeBytes s.toList n)) else none

/-- the excerpt of a text, unless the search for its end or the cut fails -/
def excerpt? (s : String) : Option String :=
  if s.utf8ByteSize ≤ excerptBytes then some s else (searchBack s.toList excerptBytes).bind (cut? s)

/-- the search finds the last boundary -/
theorem searchBack_eq (cs : List Char) (n : Nat) : searchBack cs n = some (boundaryBefore cs n) := by
  induction n with
  | zero => cases cs <;> rfl
  | succ n ih =>
    unfold searchBack boundaryBefore
    split_ifs
    · rfl
    · exact ih

theorem isBoundary_boundaryBefore (cs : List Char) (n : Nat) : isBoundary cs (boundaryBefore cs n) = true := by
  induction n with
  | zero => cases cs <;> rfl
  | succ n ih =>
    unfold boundaryBefore
    split_ifs with hn
    · exact hn
    · exact ih

theorem boundaryBefore_le (cs : List Char) (n : Nat) : boundaryBefore cs n ≤ n := by
  induction n with
  | zero => exact Nat.le_refl 0
  | succ n ih =>
    unfold boundaryBefore
    split_ifs
    · exact Nat.le_refl _
    · exact Nat.le_succ_of_le ih

/-- no boundary at or before the byte comes later -/
theorem le_boundaryBefore {cs : List Char} {i n : Nat} (hi : isBoundary cs i = true) (hn : i ≤ n) :
    i ≤ boundaryBefore cs n := by
  induction n with
  | zero => exact hn
  | succ n ih =>
    unfold boundaryBefore
    split_ifs with hlast
    · exact hn
    · have hne : i ≠ n + 1 := fun h => hlast (h ▸ hi)
      exact ih (by omega)

/-! ## The cut -/

/-- at a boundary the bytes before it are taken -/
theorem takeBytes_front (front back : List Char) : takeBytes (front ++ back) (byteCount front) = front := by
  induction front with
  | nil =>
    cases back with
    | nil => rfl
    | cons c back =>
      have hpos := c.utf8Size_pos
      have hbig : ¬c.utf8Size ≤ 0 := by omega
      simp [takeBytes, byteCount, hbig]
  | cons c front ih => simp [takeBytes, byteCount_cons, ih]

/-- a text that is cut at a boundary -/
theorem cut_of_isBoundary {s : String} {n : Nat} (hn : isBoundary s.toList n = true) :
    ∃ rest, s = String.ofList (takeBytes s.toList n) ++ rest ∧
      (String.ofList (takeBytes s.toList n)).utf8ByteSize = n := by
  obtain ⟨front, back, hsplit, rfl⟩ := isBoundary_iff.1 hn
  rw [hsplit, takeBytes_front]
  refine ⟨String.ofList back, ?_, utf8ByteSize_ofList front⟩
  rw [← String.ofList_append, ← hsplit, String.ofList_toList]

/-! ## Excerpts -/

/-- `e` is what a log line shows of the text `s` -/
structure Shown (s e : String) : Prop where
  /-- the search for its end finds one, and the text can be cut there -/
  found : excerpt? s = some e
  /-- it is a start of the text, which ends between two characters -/
  start : ∃ rest, s = e ++ rest
  boundary : (String.Pos.Raw.mk e.utf8ByteSize).IsValid s
  fits : e.utf8ByteSize ≤ 40
  /-- and no longer one fits -/
  longest : ∀ p : String.Pos.Raw, p.IsValid s → p.byteIdx ≤ 40 → p.byteIdx ≤ e.utf8ByteSize
  whole : s.utf8ByteSize ≤ 40 → e = s
  nearly : 40 < s.utf8ByteSize → 37 ≤ e.utf8ByteSize

/-- a text that fits is shown as it is -/
theorem shown_whole {s : String} (hs : s.utf8ByteSize ≤ 40) : Shown s s where
  found := if_pos hs
  start := ⟨"", String.append_empty.symm⟩
  boundary := String.Pos.Raw.isValid_rawEndPos
  fits := hs
  longest p hp _ := hp.le_utf8ByteSize
  whole _ := rfl
  nearly hlong := by omega

/-- a longer text is cut at the last boundary -/
theorem shown_cut {s : String} (hs : 40 < s.utf8ByteSize) :
    Shown s (String.ofList (takeBytes s.toList (boundaryBefore s.toList 40))) := by
  have hlast := isBoundary_boundaryBefore s.toList 40
  have hvalid := isBoundary_toList.1 hlast
  obtain ⟨rest, hrest, hsize⟩ := cut_of_isBoundary hlast
  have hcount : 40 < byteCount s.toList := by rwa [byteCount_toList]
  obtain ⟨i, hi, hle, hnear⟩ := exists_isBoundary_near hcount
  constructor
  · have hlong : ¬s.utf8ByteSize ≤ excerptBytes := by simpa [excerptBytes] using hs
    unfold excerpt?
    rw [if_neg hlong, searchBack_eq]
    exact if_pos (String.Pos.Raw.isValid_eq_true_iff.2 hvalid)
  · exact ⟨rest, hrest⟩
  · rwa [hsize]
  · rw [hsize]
    exact boundaryBefore_le _ _
  · intro p hp hfits
    rw [hsize]
    exact le_boundaryBefore (isBoundary_toList.2 hp) hfits
  · intro hshort
    omega
  · intro _
    have hlate := le_boundaryBefore hi hle
    rw [hsize]
    omega

/-- **An excerpt is the longest start of a text that has 40 bytes at most**, and the search for its end finds one for
every text: it stays after byte 36, and the place that it finds lies within no character. -/
theorem excerpt_longest (s : String) : Shown s (excerpt s) := by
  unfold excerpt
  rw [byteCount_toList]
  split_ifs with hs
  · exact shown_whole hs
  · exact shown_cut (Nat.lt_of_not_le hs)

/-- a character of three bytes around byte 40 is left out -/
example : (excerpt (String.ofList (List.replicate 38 'a' ++ ['€', 'b']))).utf8ByteSize = 38 := by decide +kernel

end ChainFeed
