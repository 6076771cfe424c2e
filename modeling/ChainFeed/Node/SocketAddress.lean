/-
Socket addresses: an internet address of the fourth or sixth version, and a port.

An address of the sixth version is written with its longest run of zero groups as `::`, or with its last
32 bits as one of the fourth version where it maps such an address.
-/
import ChainFeed.Json.Codec

namespace ChainFeed

/-- an internet address -/
inductive Host where
  | v4 (a b c d : UInt8)
  /-- eight groups, and the scope of the address -/
  | v6 (groups : Vector UInt16 8) (scope : UInt32)
deriving DecidableEq

/-- a host and a port -/
structure SocketAddress where
  host : Host
  port : UInt16
deriving DecidableEq

namespace SocketAddress

/-! ## Writing -/

def v4Text (a b c d : UInt8) : List Char :=
  natText a.toNat ++ '.' :: natText b.toNat ++ '.' :: natText c.toNat ++
    '.' :: natText d.toNat

/-- groups in hexadecimal, separated by colons -/
def groupsText : List UInt16 → List Char
  | [] => []
  | [g] => Nat.toDigits 16 g.toNat
  | g :: h :: rest => Nat.toDigits 16 g.toNat ++ ':' :: groupsText (h :: rest)

/-- the length of the run of zeros that a list starts with -/
def zeroRun (gs : List UInt16) : Nat :=
  (gs.takeWhile fun g => g == 0).length

/-- the start and length of the first longest run of zeros, from a given position on -/
def longestRun : List UInt16 → Nat → Nat × Nat
  | [], _ => (0, 0)
  | g :: rest, start =>
    let here := zeroRun (g :: rest)
    let (laterStart, later) := longestRun rest (start + 1)
    if here ≠ 0 ∧ later ≤ here then (start, here) else (laterStart, later)

def v6Text (groups : List UInt16) : List Char :=
  match groups with
  | [0, 0, 0, 0, 0, 0xffff, g, h] =>
    "::ffff:".toList ++
      v4Text (g.toNat / 256).toUInt8 (g.toNat % 256).toUInt8 (h.toNat / 256).toUInt8
        (h.toNat % 256).toUInt8
  | groups =>
    let (start, length) := longestRun groups 0
    if 1 < length then
      groupsText (groups.take start) ++ ':' :: ':' :: groupsText (groups.drop (start + length))
    else groupsText groups

/-- the text of an address -/
def chars (a : SocketAddress) : List Char :=
  let port := ':' :: natText a.port.toNat
  match a.host with
  | .v4 a b c d => v4Text a b c d ++ port
  | .v6 groups scope =>
    let zone := if scope = 0 then [] else '%' :: natText scope.toNat
    '[' :: v6Text groups.toList ++ zone ++ ']' :: port

def text (a : SocketAddress) : String :=
  String.ofList a.chars

/-! ## Reading -/

/-- the number at the start of a text, in decimal, not over `most` -/
def readDecimal? (most : Nat) (cs : List Char) : Option (Nat × List Char) :=
  let digits := cs.takeWhile isDigit
  let n := digitsValue digits
  if digits.isEmpty || most < n then none else some (n, cs.drop digits.length)

/-- one of the four numbers of an address of the fourth version: no leading zero, at most 255 -/
def readOctet? (cs : List Char) : Option (UInt8 × List Char) := do
  let digits := cs.takeWhile isDigit
  if 3 < digits.length ∨ (1 < digits.length ∧ digits.head? = some '0') then none
  else
    let (n, rest) ← readDecimal? 255 cs
    some (n.toUInt8, rest)

/-- reads one given character -/
def readChar? (c : Char) : List Char → Option (List Char)
  | d :: rest => if d = c then some rest else none
  | [] => none

def readV4? (cs : List Char) : Option ((UInt8 × UInt8 × UInt8 × UInt8) × List Char) := do
  let (a, cs) ← readOctet? cs
  let (b, cs) ← readOctet? (← readChar? '.' cs)
  let (c, cs) ← readOctet? (← readChar? '.' cs)
  let (d, cs) ← readOctet? (← readChar? '.' cs)
  some ((a, b, c, d), cs)

/-- a group of at most four hexadecimal digits -/
def readGroup? (cs : List Char) : Option (UInt16 × List Char) :=
  let digits := cs.takeWhile fun c => (hexValue? c).isSome
  if digits.isEmpty || 4 < digits.length then none
  else
    let n := digits.foldl (fun n c => n * 16 + (hexValue? c).getD 0) 0
    some (n.toUInt16, cs.drop digits.length)

/-- the two groups that the four numbers of an address of the fourth version fill -/
def v4Groups (a b c d : UInt8) : List UInt16 :=
  [(a.toNat * 256 + b.toNat).toUInt16, (c.toNat * 256 + d.toNat).toUInt16]

/-- reads up to `limit` groups, the last two of them as an address of the fourth version where one
stands there; tells whether one did -/
def readGroups : (limit : Nat) → (first : Bool) → List Char → List UInt16 × Bool × List Char
  | 0, _, cs => ([], false, cs)
  | limit + 1, first, cs =>
    let start := if first then some cs else readChar? ':' cs
    match (if 0 < limit then start.bind readV4? else none) with
    | some ((a, b, c, d), rest) => (v4Groups a b c d, true, rest)
    | none =>
      match start.bind readGroup? with
      | none => ([], false, cs)
      | some (g, rest) =>
        let (gs, v4, rest) := readGroups limit false rest
        (g :: gs, v4, rest)

/-- reads an address of the sixth version -/
def readV6? (cs : List Char) : Option (List UInt16 × List Char) := do
  let (head, v4, cs) := readGroups 8 true cs
  if head.length = 8 then some (head, cs)
  else if v4 then none
  else
    let cs ← readChar? ':' (← readChar? ':' cs)
    let (tail, _, cs) := readGroups (7 - head.length) true cs
    some (head ++ List.replicate (8 - head.length - tail.length) 0 ++ tail, cs)

/-- reads a colon and a port -/
def readPort? (cs : List Char) : Option (UInt16 × List Char) := do
  let (n, rest) ← readDecimal? 65535 (← readChar? ':' cs)
  some (n.toUInt16, rest)

/-- reads the scope between an address of the sixth version and its bracket -/
def readScope? (cs : List Char) : Option (UInt32 × List Char) :=
  match cs with
  | '%' :: rest => do
    let (n, rest) ← readDecimal? (UInt32.size - 1) rest
    some (n.toUInt32, rest)
  | cs => some (0, cs)

def parseV4? (cs : List Char) : Option SocketAddress := do
  let ((a, b, c, d), cs) ← readV4? cs
  let (port, rest) ← readPort? cs
  if rest.isEmpty then some ⟨.v4 a b c d, port⟩ else none

def parseV6? (cs : List Char) : Option SocketAddress := do
  let (groups, cs) ← readV6? (← readChar? '[' cs)
  let (scope, cs) ← readScope? cs
  let (port, rest) ← readPort? (← readChar? ']' cs)
  if h : groups.length = 8 ∧ rest.isEmpty then some ⟨.v6 ⟨groups.toArray, by simp [h.1]⟩ scope, port⟩
  else none

/-- reads an address -/
def parse? (s : String) : Option SocketAddress :=
  (parseV4? s.toList).or (parseV6? s.toList)

def codec : Json.Codec SocketAddress where
  write a := Json.quote a.text
  read := Json.readString "socket address" fun s =>
    match parse? s with
    | some a => .ok a
    | none => .error .badSocketAddress

end SocketAddress

end ChainFeed
