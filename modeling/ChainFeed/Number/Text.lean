/-
Numbers as text: integers, and doubles with digits that read back.
-/
import ChainFeed.Number.Interval

namespace ChainFeed

/-- the text of a natural number -/
def natText (n : Nat) : List Char :=
  Nat.toDigits 10 n

/-- the text of an integer -/
def intText (i : Int) : List Char :=
  if i < 0 then '-' :: natText i.natAbs else natText i.natAbs

/-- which decimal stands for a double -/
inductive DigitRule where
  /-- the fewest digits that read back -/
  | fewest
  /-- the digits that 64-bit arithmetic finds -/
  | scaled
deriving DecidableEq, Repr

/-- the decimal for the positive double `significand * 2 ^ exponent` -/
def DigitRule.decimal : DigitRule → Nat → Int → Decimal
  | .fewest => Decimal.shortest
  | .scaled => Decimal.scaled

/-- how a double is written -/
structure FloatLayout where
  digits : DigitRule
  /-- positional notation for numbers with at most this many digits before the point -/
  mostWhole : Int
  /-- positional notation for numbers with at most this many zeros after `0.` -/
  mostZeros : Int
  /-- whether a positive exponent has its sign -/
  plus : Bool
deriving DecidableEq, Repr

/-- digits with `point` of them before the decimal point, where that is not a positive number of
digits the zeros after `0.` -/
def positional (digits : List Char) (point : Int) : List Char :=
  if point ≤ 0 then '0' :: '.' :: (List.replicate (-point).toNat '0' ++ digits)
  else if (digits.length : Int) ≤ point then
    digits ++ List.replicate (point - digits.length).toNat '0' ++ ['.', '0']
  else digits.take point.toNat ++ '.' :: digits.drop point.toNat

namespace FloatLayout

/-- digits as `d.ddde±x` -/
def exponential (l : FloatLayout) (digits : List Char) (exponent : Int) : List Char :=
  let mantissa :=
    match digits with
    | d :: e :: rest => d :: '.' :: e :: rest
    | ds => ds
  let sign := if exponent < 0 then ['-'] else if l.plus then ['+'] else []
  mantissa ++ 'e' :: (sign ++ natText exponent.natAbs)

/-- the text of a positive decimal -/
def decimalText (l : FloatLayout) (d : Decimal) : List Char :=
  let digits := d.digitChars
  let point := (digits.length : Int) + d.exponent
  if -l.mostZeros ≤ point ∧ point ≤ l.mostWhole then positional digits point
  else l.exponential digits (point - 1)

/-- the text of a finite double, `none` for the others -/
def text? (l : FloatLayout) (x : Float) : Option (List Char) :=
  match Binary64.ofFloat x with
  | .finite negative significand exponent =>
    let magnitude :=
      if significand = 0 then ['0', '.', '0'] else l.decimalText (l.digits.decimal significand exponent)
    some (if negative then '-' :: magnitude else magnitude)
  | _ => none

end FloatLayout

end ChainFeed
