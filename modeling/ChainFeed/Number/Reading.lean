/-
Reading numbers: digits in a base, whole numbers with a sign, and doubles.

A whole number of 64 bits is refused where it does not fit. A double never is: beyond the largest one
it is infinite.
-/
import ChainFeed.Number.Binary64
import ChainFeed.Number.Checked

namespace ChainFeed

/-! ## Digits -/

def isDigit (c : Char) : Bool :=
  '0' ≤ c && c ≤ '9'

/-- the number that digits stand for -/
def digitsValue (ds : List Char) : Nat :=
  ds.foldl (fun n d => n * 10 + (d.toNat - 48)) 0

/-- the value of a hexadecimal digit -/
def hexValue? (c : Char) : Option Nat :=
  if '0' ≤ c ∧ c ≤ '9' then some (c.toNat - 48)
  else if 'a' ≤ c ∧ c ≤ 'f' then some (c.toNat - 87)
  else if 'A' ≤ c ∧ c ≤ 'F' then some (c.toNat - 55)
  else none

/-- the number that digits in a base of at most 16 stand for, if all of them are digits of it -/
def ofDigits? (base : Nat) (n : Nat) : List Char → Option Nat
  | [] => some n
  | c :: cs => do
    let d ← (hexValue? c).filter fun d => d < base
    ofDigits? base (n * base + d) cs

/-! ## Whole numbers -/

/-- a natural number, which has a digit at least -/
def readNat? (base : Nat) : List Char → Option Nat
  | [] => none
  | cs => ofDigits? base 0 cs

/-- whether a text starts with a minus sign, and the text after its sign -/
def readSign : List Char → Bool × List Char
  | '-' :: cs => (true, cs)
  | '+' :: cs => (false, cs)
  | cs => (false, cs)

/-- a whole number with an optional sign -/
def readInt? (base : Nat) (cs : List Char) : Option Int :=
  let (negative, digits) := readSign cs
  (readNat? base digits).map fun n => if negative then -(n : Int) else n

/-- a whole number of 64 bits with a sign -/
def readInt64? (base : Nat) (cs : List Char) : Option Int64 :=
  ((readInt? base cs).filter fitsInt64).map Int64.ofInt

/-- a whole number of 64 bits without a sign, before which a plus may stand -/
def readUInt64? (cs : List Char) : Option UInt64 :=
  let digits := match cs with
    | '+' :: rest => rest
    | rest => rest
  ((readNat? 10 digits).filter fun n => n < UInt64.size).map UInt64.ofNat

/-! ## Doubles -/

/-- the infinite double of a sign -/
def infinite (negative : Bool) : Float :=
  if negative then -1.0 / 0.0 else 1.0 / 0.0

/-- the exponent after the digits of a number, 0 if nothing follows them -/
def readExponent? : List Char → Option Int
  | [] => some 0
  | c :: cs => if c = 'e' ∨ c = 'E' then readInt? 10 cs else none

/-- a number after its sign: digits with an optional point, and an optional exponent -/
def readMagnitude? (negative : Bool) (cs : List Char) : Option Float := do
  let whole := cs.takeWhile isDigit
  let rest := cs.dropWhile isDigit
  let (fraction, rest) := match rest with
    | '.' :: rest => (rest.takeWhile isDigit, rest.dropWhile isDigit)
    | rest => ([], rest)
  let exponent ← readExponent? rest
  if whole.isEmpty && fraction.isEmpty then none
  else
    let digits := digitsValue (whole ++ fraction)
    some ((ofDecimal? negative digits (exponent - fraction.length)).getD (infinite negative))

/-- a double: a number with an optional sign, or a word for an infinity or for no number, in letters
of either case -/
def readFloat? (cs : List Char) : Option Float :=
  let (negative, rest) := readSign cs
  let word := String.ofList (rest.map Char.toLower)
  if word = "inf" || word = "infinity" then some (infinite negative)
  else if word = "nan" then some (0.0 / 0.0)
  else readMagnitude? negative rest

end ChainFeed
