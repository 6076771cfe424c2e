/-
Hosts of addresses: a name, an internet address of the fourth version in any of its spellings, or one of
the sixth version between brackets.

A name may be written with bytes by percent signs, with characters that stand for plain ones, and with
labels in the letter encoding of other scripts. A host whose last part is a number is an address of
the fourth version or nothing.
-/
import ChainFeed.Number.Reading
import ChainFeed.Text.Hidden
import ChainFeed.Text.Mark

namespace ChainFeed

/-- splits at a character -/
def splitAt (sep : Char) (cs : List Char) : List (List Char) :=
  cs.foldr (fun c parts =>
    if c = sep then [] :: parts
    else
      match parts with
      | [] => [[c]]
      | p :: rest => (c :: p) :: rest) [[]]

/-- the bytes that a text stands for in which bytes may be written by percent signs -/
def percentDecode : List Char → List UInt8
  | '%' :: a :: b :: rest =>
    match hexValue? a, hexValue? b with
    | some high, some low => UInt8.ofNat (high * 16 + low) :: percentDecode rest
    | _, _ => 37 :: percentDecode (a :: b :: rest)
  | c :: rest => (String.singleton c).toUTF8.toList ++ percentDecode rest
  | [] => []

/-- the text of bytes that are well formed -/
def percentDecodeText? (cs : List Char) : Option String :=
  String.fromUTF8? ⟨(percentDecode cs).toArray⟩

/-- the host of an address -/
inductive HostName where
  | name (text : String)
  | v4 (address : Nat)
  | v6 (groups : List Nat)
deriving DecidableEq, Repr

namespace HostName

/-! ## The fourth version -/

/-- a part of an address: hexadecimal after `0x`, octal after `0`, else decimal. Nothing after `0x` is
zero. -/
def readPart? : List Char → Option Nat
  | '0' :: 'x' :: rest => if rest.isEmpty then some 0 else readNat? 16 rest
  | '0' :: 'X' :: rest => if rest.isEmpty then some 0 else readNat? 16 rest
  | '0' :: c :: rest => readNat? 8 (c :: rest)
  | cs => readNat? 10 cs

/-- the parts of a host between points, but for an empty one at its end -/
def parts (cs : List Char) : List (List Char) :=
  let all := splitAt '.' cs
  if all.getLast? = some [] then all.dropLast else all

/-- whether the last part of a host is a number -/
def endsInNumber (cs : List Char) : Bool :=
  match (parts cs).getLast? with
  | some p => p ≠ [] && (p.all isDigit || (readPart? p).isSome)
  | none => false

/-- the address of parts: each but the last is one byte, and the last one all bytes that are left -/
def ofParts? (parts : List (List Char)) : Option Nat := do
  let numbers ← parts.mapM readPart?
  let last ← numbers.getLast?
  let bytes := numbers.dropLast
  if bytes.length < 4 ∧ (∀ b ∈ bytes, b < 256) ∧ last < Nat.pow 256 (4 - bytes.length) then
    some (bytes.foldr (fun b n => b * Nat.pow 256 3 + n / 256) 0 + last)
  else none

/-! ## The sixth version -/

/-- the byte that a text starts with, in decimal without a leading zero, and what follows it -/
def readByte? (cs : List Char) : Option (Nat × List Char) :=
  let digits := cs.takeWhile isDigit
  let n := digitsValue digits
  if digits.isEmpty || 255 < n || (digits.head? = some '0' && 1 < digits.length) then none
  else some (n, cs.dropWhile isDigit)

/-- two groups written as an address of the fourth version -/
def readLastGroups? (cs : List Char) : Option (Nat × Nat) := do
  let (a, cs) ← readByte? cs
  let (b, cs) ← readByte? (← point cs)
  let (c, cs) ← readByte? (← point cs)
  let (d, cs) ← readByte? (← point cs)
  if cs.isEmpty then some (a * 256 + b, c * 256 + d) else none
where
  point : List Char → Option (List Char)
    | '.' :: rest => some rest
    | _ => none

/-- Reads groups, with `done` holding those read so far, the latest first, and `none` where zeros are
left out. A group ends before a colon that is not the last character. -/
def readGroups? : Nat → List (Option Nat) → List Char → Option (List (Option Nat))
  | _, done, [] => some done.reverse
  | 0, _, _ => none
  | fuel + 1, done, c :: cs =>
    if done.length = 8 then none
    else if c = ':' then if done.contains none then none else readGroups? fuel (none :: done) cs
    else
      let digits := ((c :: cs).take 4).takeWhile fun d => (hexValue? d).isSome
      match ofDigits? 16 0 digits, (c :: cs).drop digits.length with
      | some n, [] => some (some n :: done).reverse
      | some n, ':' :: rest => if rest.isEmpty then none else readGroups? fuel (some n :: done) rest
      | some _, '.' :: _ =>
        if digits.isEmpty || 6 < done.length then none
        else (readLastGroups? (c :: cs)).map fun (a, b) => (some b :: some a :: done).reverse
      | _, _ => none

/-- an address of the sixth version: eight groups, or fewer with zeros left out once -/
def ofGroups? (cs : List Char) : Option (List Nat) := do
  let start ← match cs with
    | ':' :: ':' :: rest => some ([none], rest)
    | ':' :: _ => none
    | cs => some ([], cs)
  let groups ← readGroups? (cs.length + 1) start.1 start.2
  if groups.contains none then
    some (groups.flatMap fun g => match g with
      | some n => [n]
      | none => List.replicate (9 - groups.length) 0)
  else if groups.length = 8 then some (groups.filterMap id)
  else none

/-! ## Names -/

/-- what a character of a name stands for: small letters for capitals, plain characters for wide ones, a
point for other full stops, and nothing for characters that only guide line breaks or shapes -/
def plain (c : Char) : List Char :=
  let n := c.toNat
  if 0xff01 ≤ n && n ≤ 0xff5e then [(Char.ofNat (n - 0xfee0)).toLower]
  else if n = 0x3002 || n = 0xff61 then ['.']
  else if n = 0xad || n = 0x34f || (0x180b ≤ n && n ≤ 0x180f && n ≠ 0x180e) || n = 0x200b || n = 0x2060 ||
      n = 0x2064 || n = 0xfeff || (0xfe00 ≤ n && n ≤ 0xfe0f) || (0xe0100 ≤ n && n ≤ 0xe01ef) then []
  else [c.toLower]

/-- the characters that cannot stand in a name -/
def isForbidden (c : Char) : Bool :=
  c.toNat ≤ 32 || c.toNat = 127 || "\"#%/:<>?@[\\]^`\x7b|\x7d".toList.contains c

/-- the ranges of characters that show and stand for a space or a forbidden sign, alone or with others -/
def forbiddenForms : Array (Nat × Nat) := #[
  (0xa8, 0xa8), (0xaf, 0xaf), (0xb4, 0xb4), (0xb8, 0xb8), (0x2d8, 0x2dd), (0x37a, 0x37a),
  (0x384, 0x385), (0x1fbd, 0x1fbd), (0x1fbf, 0x1fc1), (0x1fcd, 0x1fcf), (0x1fdd, 0x1fdf),
  (0x1fed, 0x1fef), (0x1ffd, 0x1ffe), (0x2017, 0x2017), (0x203e, 0x203e), (0x2047, 0x2049),
  (0x2100, 0x2101), (0x2105, 0x2106), (0x2a74, 0x2a74), (0x309b, 0x309c), (0xfc5e, 0xfc63),
  (0xfdfa, 0xfdfb), (0xfe13, 0xfe13), (0xfe16, 0xfe16), (0xfe37, 0xfe38), (0xfe47, 0xfe4c),
  (0xfe55, 0xfe56), (0xfe5b, 0xfe5c), (0xfe5f, 0xfe5f), (0xfe64, 0xfe65), (0xfe68, 0xfe68),
  (0xfe6a, 0xfe6b), (0xfe70, 0xfe70), (0xfe72, 0xfe72), (0xfe74, 0xfe74), (0xfe76, 0xfe76),
  (0xfe78, 0xfe78), (0xfe7a, 0xfe7a), (0xfe7c, 0xfe7c), (0xfe7e, 0xfe7e), (0xffe3, 0xffe3)]

/-- whether a character of another script can stand in a name, at the start of a label or after it -/
def isForeign (start : Bool) (c : Char) : Bool :=
  let n := c.toNat
  128 ≤ n && plain c == [c] && n ≠ 0xfffc && n ≠ 0xfffd && (isMark c || !isHidden c) &&
    !(start && isMark c) && !forbiddenForms.any fun (first, last) => first ≤ n && n ≤ last

/-- the next bias of the letter encoding after a number -/
def nextBias (delta count : Nat) (first : Bool) : Nat :=
  let delta := if first then delta / 700 else delta / 2
  shrink 16 (delta + delta / count) 0
where
  shrink : Nat → Nat → Nat → Nat
    | 0, delta, k => k + 36 * delta / (delta + 38)
    | fuel + 1, delta, k =>
      if 455 < delta then shrink fuel (delta / 35) (k + 36) else k + 36 * delta / (delta + 38)

/-- the value of a digit of the letter encoding -/
def letterDigit? (c : Char) : Option Nat :=
  if 'a' ≤ c ∧ c ≤ 'z' then some (c.toNat - 97)
  else if isDigit c then some (c.toNat - 22)
  else none

/-- reads a number of the letter encoding, whose digits have thresholds that tell the last one -/
def readDelta? (bias : Nat) : List Char → Nat → Nat → Nat → Option (Nat × List Char)
  | [], _, _, _ => none
  | c :: rest, k, weight, n => do
    let d ← letterDigit? c
    let threshold := if k ≤ bias then 1 else if bias + 26 ≤ k then 26 else k - bias
    let n := n + d * weight
    if Nat.pow 2 32 ≤ n then none
    else if d < threshold then some (n, rest)
    else readDelta? bias rest (k + 36) (weight * (36 - threshold)) n

/-- puts the characters that numbers of the letter encoding stand for among those read so far -/
def insertLetters? : Nat → List Char → (code position bias : Nat) → List Char → Option (List Char)
  | _, done, _, _, _, [] => some done
  | 0, _, _, _, _, _ => none
  | fuel + 1, done, code, position, bias, cs => do
    let (next, rest) ← readDelta? bias cs 36 1 position
    let count := done.length + 1
    let code := code + next / count
    if code.isValidChar then
      let place := next % count
      insertLetters? fuel (done.take place ++ Char.ofNat code :: done.drop place) code (place + 1)
        (nextBias (next - position) count (position == 0)) rest
    else none

/-- the label that the letter encoding, after its `xn--`, stands for -/
def decodeLabel? (cs : List Char) : Option (List Char) :=
  let tail := (cs.reverse.takeWhile (· ≠ '-')).reverse
  let plain := cs.take (cs.length - tail.length - 1)
  if tail.isEmpty then none else insertLetters? tail.length plain 128 0 72 tail

/-- the label of a name that a text stands for, if it can stand in one -/
def readLabel? (cs : List Char) : Option (List Char) := do
  let label ← match cs with
    | 'x' :: 'n' :: '-' :: '-' :: rest =>
      (decodeLabel? rest).filter fun label => label.any fun c => 128 ≤ c.toNat
    | cs => some cs
  if label.zipIdx.all fun (c, i) => c.toNat < 128 || isForeign (i == 0) c then some label else none

/-- whether labels can stand in one name: if one of them is written from the right in part, each is
written in one direction -/
def areOneWay (labels : List (List Char)) : Bool :=
  !labels.any isFromRight || labels.all isOneWay

/-- a host that stands for itself, without brackets -/
def ofName? (cs : List Char) : Option HostName := do
  let text := (← percentDecodeText? cs).toList.flatMap plain
  let labels ← (splitAt '.' text).mapM readLabel?
  if text.isEmpty || text.any isForbidden || !areOneWay labels then none
  else if endsInNumber text then (ofParts? (parts text)).map .v4
  else some (.name (String.ofList text))

/-- reads a host -/
def parse? : List Char → Option HostName
  | '[' :: rest => if rest.getLast? = some ']' then (ofGroups? rest.dropLast).map .v6 else none
  | cs => ofName? cs

end HostName

end ChainFeed
