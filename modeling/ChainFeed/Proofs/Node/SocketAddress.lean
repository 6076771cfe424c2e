/-
A socket address is read back from its text.

- `parseV4?_chars`: an address of the fourth version.
- `longestRun_zeros`: the run that `::` stands for holds zeros only.
- `readV6?_v6Text`: the groups of an address of the sixth version, in each of its three forms.
- `parse?_text`: any address.
-/
import ChainFeed.Proofs.Json.Values
import ChainFeed.Node.SocketAddress
import Mathlib.Algebra.Group.Nat.Defs

namespace ChainFeed.SocketAddress

/-! ## Numbers -/

theorem drop_length_append {α : Type} (word rest : List α) : (word ++ rest).drop word.length = rest := by
  simp

theorem readDecimal?_natText {n most : Nat} (hn : n ≤ most) {rest : List Char} (hr : Stops isDigit rest) :
    readDecimal? most (natText n ++ rest) = some (n, rest) := by
  have hword : (natText n ++ rest).takeWhile isDigit = natText n := by
    rw [takeWhile_stop hr, takeWhile_natText]
  have hfits : ¬((natText n).isEmpty || decide (most < n)) = true := by
    simp [natText_ne_nil, hn]
  unfold readDecimal?
  rw [hword]
  dsimp only
  rw [digitsValue_natText, if_neg hfits, drop_length_append]

theorem length_natText_le {n k : Nat} (hk : 0 < k) (hn : n < 10 ^ k) : (natText n).length ≤ k :=
  (Nat.length_toDigits_le_iff (by decide) hk).2 hn

theorem readOctet?_natText (n : UInt8) {rest : List Char} (hr : Stops isDigit rest) :
    readOctet? (natText n.toNat ++ rest) = some (n, rest) := by
  have hn := n.toNat_lt
  have hword : (natText n.toNat ++ rest).takeWhile isDigit = natText n.toNat := by
    rw [takeWhile_stop hr, takeWhile_natText]
  have hlength : (natText n.toNat).length ≤ 3 := length_natText_le (by decide) (by omega)
  have hlead : ¬(1 < (natText n.toNat).length ∧ (natText n.toNat).head? = some '0') := by
    rintro ⟨hlong, hzero⟩
    by_cases hn0 : n.toNat = 0
    · rw [hn0] at hlong
      exact absurd hlong (by decide)
    · exact natText_head hn0 hzero
  have hread : readDecimal? 255 (natText n.toNat ++ rest) = some (n.toNat, rest) :=
    readDecimal?_natText (by omega) hr
  unfold readOctet?
  rw [hword]
  dsimp only
  rw [if_neg (not_or.2 ⟨by omega, hlead⟩), hread]
  simp

theorem readChar?_same (c : Char) (rest : List Char) : readChar? c (c :: rest) = some rest := by
  simp [readChar?]

theorem stops_digit_cons {c : Char} (hc : isDigit c = false) (rest : List Char) : Stops isDigit (c :: rest) := by
  intro d hd
  cases hd
  exact hc

theorem readPort?_natText (port : UInt16) : readPort? (':' :: natText port.toNat) = some (port, []) := by
  have hp := port.toNat_lt
  have hnil : Stops isDigit [] := fun _ hc => nomatch hc
  have hread := readDecimal?_natText (by omega : port.toNat ≤ 65535) hnil
  rw [List.append_nil] at hread
  simp [readPort?, readChar?_same, hread]

/-! ## The fourth version -/

theorem readV4?_v4Text (a b c d : UInt8) {rest : List Char} (hr : Stops isDigit rest) :
    readV4? (v4Text a b c d ++ rest) = some ((a, b, c, d), rest) := by
  have hpoint : ∀ rest, Stops isDigit ('.' :: rest) := stops_digit_cons (by decide)
  simp [readV4?, v4Text, readOctet?_natText _ (hpoint _), readChar?_same, readOctet?_natText _ hr]

theorem parseV4?_chars (a b c d : UInt8) (port : UInt16) :
    parseV4? (chars ⟨.v4 a b c d, port⟩) = some ⟨.v4 a b c d, port⟩ := by
  have hcolon := stops_digit_cons (c := ':') (by decide) (natText port.toNat)
  simp [parseV4?, chars, readV4?_v4Text a b c d hcolon, readPort?_natText]

/-! ## Groups -/

/-- a group ends here: a colon, the zone or the bracket comes next -/
def GroupEnd (rest : List Char) : Prop :=
  ∃ c tail, rest = c :: tail ∧ (c = ':' ∨ c = '%' ∨ c = ']')

theorem groupEnd_cons {c : Char} (hc : c = ':' ∨ c = '%' ∨ c = ']') (tail : List Char) : GroupEnd (c :: tail) :=
  ⟨c, tail, rfl, hc⟩

/-- whether a character is a hexadecimal digit -/
def isHexDigit (c : Char) : Bool := (hexValue? c).isSome

theorem GroupEnd.stops {rest : List Char} (h : GroupEnd rest) : Stops isHexDigit rest := by
  rintro c hc
  obtain ⟨c, tail, rfl, rfl | rfl | rfl⟩ := h <;> cases hc <;> decide

theorem GroupEnd.stops_digit {rest : List Char} (h : GroupEnd rest) : Stops isDigit rest := by
  rintro c hc
  obtain ⟨c, tail, rfl, rfl | rfl | rfl⟩ := h <;> cases hc <;> decide

/-- the hexadecimal digits of a group -/
def groupText (g : UInt16) : List Char := Nat.toDigits 16 g.toNat

theorem isHexDigit_groupText {g : UInt16} : ∀ c ∈ groupText g, isHexDigit c = true := fun _ hc =>
  isSome_hexValue? hc

theorem readGroup?_groupText (g : UInt16) {rest : List Char} (hr : GroupEnd rest) :
    readGroup? (groupText g ++ rest) = some (g, rest) := by
  have hg := g.toNat_lt
  have hword : (groupText g ++ rest).takeWhile isHexDigit = groupText g := by
    rw [takeWhile_stop hr.stops, List.takeWhile_eq_self_iff.2 isHexDigit_groupText]
  have hlength : (groupText g).length ≤ 4 := (Nat.length_toDigits_le_iff (by decide) (by decide)).2 (by omega)
  have hne : groupText g ≠ [] := Nat.toDigits_ne_nil
  have hshort : ¬((groupText g).isEmpty || decide (4 < (groupText g).length)) = true := by
    simp [hne, hlength]
  have hvalue : (groupText g).foldl (fun n c => n * 16 + (hexValue? c).getD 0) 0 = g.toNat := hexValue_toDigits _
  unfold readGroup?
  rw [show (fun c => (hexValue? c).isSome) = isHexDigit from rfl, hword]
  dsimp only
  rw [if_neg hshort, hvalue, drop_length_append]
  simp

theorem rest_of_readOctet? {cs rest : List Char} {n : UInt8} (h : readOctet? cs = some (n, rest)) :
    rest = cs.dropWhile isDigit := by
  have hdrop := drop_length_append (cs.takeWhile isDigit) (cs.dropWhile isDigit)
  rw [List.takeWhile_append_dropWhile] at hdrop
  unfold readOctet? readDecimal? at h
  dsimp only at h
  rw [hdrop] at h
  split_ifs at h
  · cases h
  · cases h
    rfl

/-- no address of the fourth version starts with digits that no point follows -/
theorem readV4?_none {cs : List Char} (h : ∀ c ∈ (cs.dropWhile isDigit).head?, c ≠ '.') : readV4? cs = none := by
  have hpoint : readChar? '.' (cs.dropWhile isDigit) = none := by
    cases hd : cs.dropWhile isDigit with
    | nil => rfl
    | cons c tail => simp [readChar?, h c (by rw [hd]; rfl)]
  unfold readV4?
  cases hread : readOctet? cs with
  | none => rfl
  | some read =>
    have hrest := rest_of_readOctet? hread
    simp [hrest, hpoint]

theorem readV4?_groupText (g : UInt16) {rest : List Char} (hr : GroupEnd rest) :
    readV4? (groupText g ++ rest) = none := by
  apply readV4?_none
  rw [dropWhile_stop hr.stops_digit]
  intro c hc hpoint
  subst hpoint
  cases hd : (groupText g).dropWhile isDigit with
  | nil =>
    rw [hd] at hc
    obtain ⟨c, tail, rfl, rfl | rfl | rfl⟩ := hr <;> cases hc
  | cons d tail =>
    have hmem : d ∈ groupText g := (List.dropWhile_suffix isDigit).subset (by rw [hd]; exact List.mem_cons_self)
    rw [hd] at hc
    cases hc
    exact absurd (isHexDigit_groupText _ hmem) (by decide)

theorem readV4?_groupEnd {cs : List Char} (h : GroupEnd cs) : readV4? cs = none := by
  apply readV4?_none
  rw [h.stops_digit.dropWhile]
  intro c hc
  obtain ⟨c, tail, rfl, rfl | rfl | rfl⟩ := h <;> cases hc <;> decide

theorem readGroup?_groupEnd {cs : List Char} (h : GroupEnd cs) : readGroup? cs = none := by
  unfold readGroup?
  rw [show (fun c => (hexValue? c).isSome) = isHexDigit from rfl, h.stops.takeWhile]
  rfl

/-! ## Lists of groups -/

/-- where the next group would start: after a colon, unless it is the first one -/
def groupStart (first : Bool) (cs : List Char) : Option (List Char) :=
  if first then some cs else readChar? ':' cs

/-- no group stands here -/
def NoGroup (first : Bool) (cs : List Char) : Prop :=
  ∀ start, groupStart first cs = some start → GroupEnd start

theorem readGroups_none {first : Bool} {cs : List Char} (h : NoGroup first cs) (limit : Nat) :
    readGroups limit first cs = ([], false, cs) := by
  cases limit with
  | zero => rfl
  | succ limit =>
    have hv4 : (groupStart first cs).bind readV4? = none := by
      cases hs : groupStart first cs with
      | none => rfl
      | some start => exact readV4?_groupEnd (h start hs)
    have hgroup : (groupStart first cs).bind readGroup? = none := by
      cases hs : groupStart first cs with
      | none => rfl
      | some start => exact readGroup?_groupEnd (h start hs)
    unfold groupStart at hv4 hgroup
    simp only [readGroups, hv4, hgroup, ite_self]

/-- one group is read -/
theorem readGroups_group {first : Bool} {cs tail : List Char} {g : UInt16}
    (hstart : groupStart first cs = some (groupText g ++ tail)) (ht : GroupEnd tail) (limit : Nat) :
    readGroups (limit + 1) first cs =
      (g :: (readGroups limit false tail).1, (readGroups limit false tail).2) := by
  unfold groupStart at hstart
  simp only [readGroups, hstart, Option.bind_some, readV4?_groupText g ht, readGroup?_groupText g ht, ite_self]

/-- the groups after the first one, as they are written -/
def laterText (gs : List UInt16) : List Char :=
  gs.flatMap fun g => ':' :: groupText g

theorem groupsText_cons (g : UInt16) (gs : List UInt16) : groupsText (g :: gs) = groupText g ++ laterText gs := by
  induction gs generalizing g with
  | nil => simp [groupsText, laterText, groupText]
  | cons h gs ih =>
    rw [groupsText, ih h]
    simp [laterText, groupText]

theorem groupEnd_later {rest : List Char} (hr : GroupEnd rest) (gs : List UInt16) :
    GroupEnd (laterText gs ++ rest) := by
  cases gs with
  | nil => exact hr
  | cons g gs => exact groupEnd_cons (Or.inl rfl) _

theorem readGroups_later {rest : List Char} (hr : GroupEnd rest) (hno : NoGroup false rest) {gs : List UInt16}
    {limit : Nat} (hlimit : gs.length ≤ limit) :
    readGroups limit false (laterText gs ++ rest) = (gs, false, rest) := by
  induction gs generalizing limit with
  | nil => exact readGroups_none hno limit
  | cons g gs ih =>
    obtain ⟨limit, rfl⟩ : ∃ n, limit = n + 1 := ⟨limit - 1, by simp at hlimit; omega⟩
    have hstart : groupStart false (laterText (g :: gs) ++ rest) = some (groupText g ++ (laterText gs ++ rest)) := by
      simp [groupStart, laterText, readChar?_same]
    rw [readGroups_group hstart (groupEnd_later hr gs) limit, ih (by simpa using hlimit)]

/-- **Groups are read up to where no more come.** -/
theorem readGroups_groupsText {rest : List Char} (hr : GroupEnd rest) (hno : NoGroup false rest) {gs : List UInt16}
    {limit : Nat} (hlimit : gs.length ≤ limit) :
    readGroups limit true (groupsText gs ++ rest) = (gs, false, rest) := by
  cases gs with
  | nil =>
    refine readGroups_none ?_ limit
    rintro start hs
    cases hs
    exact hr
  | cons g gs =>
    obtain ⟨limit, rfl⟩ : ∃ n, limit = n + 1 := ⟨limit - 1, by simp at hlimit; omega⟩
    have hstart : groupStart true (groupsText (g :: gs) ++ rest) = some (groupText g ++ (laterText gs ++ rest)) := by
      simp [groupStart, groupsText_cons]
    rw [readGroups_group hstart (groupEnd_later hr gs) limit, readGroups_later hr hno (by simpa using hlimit)]

/-! ## Runs of zeros -/

theorem zeroRun_zeros (gs : List UInt16) : gs = List.replicate (zeroRun gs) 0 ++ gs.dropWhile fun g => g == 0 := by
  have hzeros : gs.takeWhile (fun g => g == 0) = List.replicate (zeroRun gs) 0 := by
    refine List.eq_replicate_of_mem fun g hg => ?_
    simpa using List.mem_takeWhile_imp hg
  rw [← hzeros, List.takeWhile_append_dropWhile]

/-- **The longest run of zeros holds zeros.** -/
theorem longestRun_zeros {gs : List UInt16} {k start length : Nat} (h : longestRun gs k = (start, length))
    (hl : length ≠ 0) :
    ∃ before after, gs = before ++ (List.replicate length 0 ++ after) ∧ start = k + before.length := by
  induction gs generalizing k with
  | nil =>
    cases h
    exact absurd rfl hl
  | cons g gs ih =>
    simp only [longestRun] at h
    split_ifs at h
    · cases h
      exact ⟨[], _, zeroRun_zeros (g :: gs), rfl⟩
    · obtain ⟨before, after, hgs, hstart⟩ := ih h
      refine ⟨g :: before, after, by rw [hgs]; rfl, ?_⟩
      rw [hstart, List.length_cons]
      omega

/-! ## The sixth version -/

/-- the zone or the bracket comes next -/
def AfterHost (rest : List Char) : Prop :=
  ∃ c tail, rest = c :: tail ∧ (c = '%' ∨ c = ']')

theorem AfterHost.groupEnd {rest : List Char} (h : AfterHost rest) : GroupEnd rest := by
  obtain ⟨c, tail, rfl, hc⟩ := h
  exact groupEnd_cons (Or.inr hc) tail

theorem AfterHost.noGroup {rest : List Char} (h : AfterHost rest) : NoGroup false rest := by
  obtain ⟨c, tail, rfl, rfl | rfl⟩ := h <;> intro start hs <;> cases hs

theorem noGroup_colons (tail : List Char) : NoGroup false (':' :: ':' :: tail) := by
  intro start hs
  simp only [groupStart, readChar?_same] at hs
  cases hs
  exact groupEnd_cons (Or.inl rfl) tail

/-- the four numbers of two groups are the groups -/
theorem v4Groups_bytes (g h : UInt16) :
    v4Groups (g.toNat / 256).toUInt8 (g.toNat % 256).toUInt8 (h.toNat / 256).toUInt8 (h.toNat % 256).toUInt8 =
      [g, h] := by
  have hbytes : ∀ n : UInt16, ((n.toNat / 256).toUInt8.toNat * 256 + (n.toNat % 256).toUInt8.toNat).toUInt16 = n := by
    intro n
    have hn := n.toNat_lt
    have hhigh : (n.toNat / 256).toUInt8.toNat = n.toNat / 256 := by simp; omega
    have hlow : (n.toNat % 256).toUInt8.toNat = n.toNat % 256 := by simp
    have hvalue : n.toNat / 256 * 256 + n.toNat % 256 = n.toNat := by omega
    rw [hhigh, hlow, hvalue]
    simp
  simp only [v4Groups, hbytes]

/-- an address whose zeros are left out between two colons -/
theorem readV6?_colons {cs middle rest : List Char} {before after : List UInt16} {v4 : Bool}
    (hbefore : readGroups 8 true cs = (before, false, ':' :: ':' :: middle)) (hshort : before.length < 8)
    (hafter : readGroups (7 - before.length) true middle = (after, v4, rest)) :
    readV6? cs = some (before ++ List.replicate (8 - before.length - after.length) 0 ++ after, rest) := by
  have hfew : before.length ≠ 8 := by omega
  simp [readV6?, hbefore, hfew, readChar?_same, hafter]

/-- an address that maps one of the fourth version -/
theorem readV6?_mapped (g h : UInt16) {rest : List Char} (hr : AfterHost rest) :
    readV6? (v6Text [0, 0, 0, 0, 0, 0xffff, g, h] ++ rest) = some ([0, 0, 0, 0, 0, 0xffff, g, h], rest) := by
  set last := v4Text (g.toNat / 256).toUInt8 (g.toNat % 256).toUInt8 (h.toNat / 256).toUInt8
    (h.toNat % 256).toUInt8 ++ rest with hl
  have hbefore : readGroups 8 true (':' :: ':' :: (groupText 0xffff ++ ':' :: last)) =
      ([], false, ':' :: ':' :: (groupText 0xffff ++ ':' :: last)) := by
    refine readGroups_none ?_ 8
    rintro start hs
    cases hs
    exact groupEnd_cons (Or.inl rfl) _
  have hlast : readGroups 6 false (':' :: last) = ([g, h], true, rest) := by
    have hv4 := readV4?_v4Text (g.toNat / 256).toUInt8 (g.toNat % 256).toUInt8 (h.toNat / 256).toUInt8
      (h.toNat % 256).toUInt8 hr.groupEnd.stops_digit
    simp [readGroups, readChar?_same, hl, hv4, v4Groups_bytes]
  have hafter : readGroups 7 true (groupText 0xffff ++ ':' :: last) = ([0xffff, g, h], true, rest) := by
    rw [readGroups_group rfl (groupEnd_cons (Or.inl rfl) _) 6, hlast]
  exact readV6?_colons hbefore (by decide) hafter

/-- **The groups of an address are read back.** -/
theorem readV6?_v6Text {groups : List UInt16} (hlength : groups.length = 8) {rest : List Char} (hr : AfterHost rest) :
    readV6? (v6Text groups ++ rest) = some (groups, rest) := by
  unfold v6Text
  split
  · exact readV6?_mapped _ _ hr
  · rcases hrun : longestRun groups 0 with ⟨start, length⟩
    dsimp only
    split_ifs with hlong
    · obtain ⟨before, after, rfl, rfl⟩ := longestRun_zeros hrun (by omega)
      have hsum : before.length + (length + after.length) = 8 := by simpa using hlength
      have htake : (before ++ (List.replicate length 0 ++ after)).take (0 + before.length) = before := by simp
      have hdrop : (before ++ (List.replicate length 0 ++ after)).drop (0 + before.length + length) = after := by
        rw [Nat.zero_add, ← List.drop_drop]
        simp
      have hbefore := readGroups_groupsText (groupEnd_cons (Or.inl rfl) (':' :: (groupsText after ++ rest)))
        (noGroup_colons _) (by omega : before.length ≤ 8)
      have hafter := readGroups_groupsText hr.groupEnd hr.noGroup (by omega : after.length ≤ 7 - before.length)
      have hread := readV6?_colons hbefore (by omega) hafter
      have hzeros : 8 - before.length - after.length = length := by omega
      rw [hzeros] at hread
      rw [htake, hdrop]
      simpa using hread
    · have hall := readGroups_groupsText hr.groupEnd hr.noGroup hlength.le
      simp only [readV6?, hall, hlength, if_true]

/-! ## Any address -/

/-- the zone as it is written -/
def zoneText (scope : UInt32) : List Char :=
  if scope = 0 then [] else '%' :: natText scope.toNat

theorem afterHost_zone (scope : UInt32) (rest : List Char) : AfterHost (zoneText scope ++ ']' :: rest) := by
  unfold zoneText
  split_ifs
  · exact ⟨']', rest, rfl, Or.inr rfl⟩
  · exact ⟨'%', _, rfl, Or.inl rfl⟩

theorem readScope?_zone (scope : UInt32) (rest : List Char) :
    readScope? (zoneText scope ++ ']' :: rest) = some (scope, ']' :: rest) := by
  unfold zoneText
  split_ifs with hzero
  · subst hzero
    rfl
  · have hs := scope.toNat_lt
    have hread : readDecimal? 4294967295 (natText scope.toNat ++ ']' :: rest) = some (scope.toNat, ']' :: rest) :=
      readDecimal?_natText (by omega) (stops_digit_cons (by decide) rest)
    simp [readScope?, hread]

theorem parseV4?_bracket (cs : List Char) : parseV4? ('[' :: cs) = none := by
  have hnone : readV4? ('[' :: cs) = none := by
    apply readV4?_none
    intro c hc
    cases hc
    decide
  simp [parseV4?, hnone]

theorem parseV6?_chars (groups : Vector UInt16 8) (scope : UInt32) (port : UInt16) :
    parseV6? (chars ⟨.v6 groups scope, port⟩) = some ⟨.v6 groups scope, port⟩ := by
  have htext : chars ⟨.v6 groups scope, port⟩ =
      '[' :: (v6Text groups.toList ++ (zoneText scope ++ ']' :: ':' :: natText port.toNat)) := by
    simp [chars, zoneText]
  have hgroups := readV6?_v6Text (by simp : groups.toList.length = 8)
    (afterHost_zone scope (':' :: natText port.toNat))
  rw [htext]
  simp [parseV6?, readChar?_same, hgroups, readScope?_zone, readPort?_natText]
  rfl

/-- **A socket address is read back from its text.** -/
theorem parse?_text (a : SocketAddress) : parse? a.text = some a := by
  obtain ⟨host, port⟩ := a
  unfold parse? text
  rw [String.toList_ofList]
  cases host with
  | v4 a b c d =>
    rw [parseV4?_chars]
    rfl
  | v6 groups scope =>
    have hbracket : parseV4? (chars ⟨.v6 groups scope, port⟩) = none := parseV4?_bracket _
    rw [hbracket, parseV6?_chars]
    rfl

theorem codec_restores (a : SocketAddress) : codec.Restores a := by
  refine ⟨Json.opens_quote _, fun rest _ => ?_⟩
  show Json.readString "socket address" _ (Json.quote a.text ++ rest) = .ok (a, rest)
  exact Json.readString_quote (by rw [parse?_text]) rest

end ChainFeed.SocketAddress
