/-
What a double stands for, and the double nearest to a quotient, in exact whole-number arithmetic.

A finite double is `± significand * 2 ^ exponent`. Reading a decimal goes through `Float.ofRatio?`;
rounding to whole numbers goes through `Binary64.rounded`.
-/
import ChainFeed.Number.Rounding

namespace ChainFeed

/-- the value of a double -/
inductive Binary64 where
  | nan
  | infinite (negative : Bool)
  /-- `± significand * 2 ^ exponent` -/
  | finite (negative : Bool) (significand : Nat) (exponent : Int)
deriving DecidableEq, Repr

namespace Binary64

/-- the exponent of the smallest doubles -/
def minExponent : Int := -1074

/-- the exponent of the largest doubles -/
def maxExponent : Int := 971

/-- the value of a double, read off its 64 bits -/
def ofFloat (x : Float) : Binary64 :=
  let b : Nat := x.toBits.toNat
  let negative := b / Nat.pow 2 63 == 1
  let biased : Nat := b / Nat.pow 2 52 % 2048
  let fraction : Nat := b % Nat.pow 2 52
  if biased = 2047 then
    if fraction = 0 then .infinite negative else .nan
  else if biased = 0 then .finite negative fraction minExponent
  else .finite negative (fraction + Nat.pow 2 52) ((biased : Int) - 1075)

/-- the double `± significand * 2 ^ exponent`, for a significand below `2 ^ 53` that is at least
`2 ^ 52` or stands at the least exponent -/
def pack (negative : Bool) (significand : Nat) (exponent : Int) : Float :=
  let sign := if negative then Nat.pow 2 63 else 0
  let magnitude :=
    if significand < Nat.pow 2 52 then significand
    else (exponent + 1075).toNat * Nat.pow 2 52 + (significand - Nat.pow 2 52)
  Float.ofBits (UInt64.ofNat (sign + magnitude))

/-- a quotient of natural numbers divided by `2 ^ exponent`, as a quotient -/
def scaled (num den : Nat) (exponent : Int) : Nat × Nat :=
  if 0 ≤ exponent then (num, den * Nat.pow 2 exponent.toNat) else (num * Nat.pow 2 (-exponent).toNat, den)

/-- the exponent at which a positive quotient has a 53-bit significand, or the least exponent -/
def exponentFor (num den : Nat) : Int :=
  let guess : Int := (Nat.log2 num : Int) - (Nat.log2 den : Int) - 53
  let (n, d) := scaled num den guess
  max minExponent (if n / d < Nat.pow 2 53 then guess else guess + 1)

/-- the significand and exponent of the double nearest to a quotient, ties to even;
`none` if the quotient lies beyond the largest double -/
def nearest? (num den : Nat) : Option (Nat × Int) :=
  if num = 0 then some (0, minExponent)
  else
    let exponent := exponentFor num den
    let (n, d) := scaled num den exponent
    let significand := roundDiv .toEven n d
    let (significand, exponent) :=
      if significand = Nat.pow 2 53 then (Nat.pow 2 52, exponent + 1) else (significand, exponent)
    if maxExponent < exponent then none else some (significand, exponent)

/-- a finite magnitude as a quotient -/
def ratio (significand : Nat) (exponent : Int) : Nat × Nat :=
  if 0 ≤ exponent then (significand * Nat.pow 2 exponent.toNat, 1)
  else (significand, Nat.pow 2 (-exponent).toNat)

/-- the nearest whole number, halves away from zero; `none` if the value is not finite -/
def rounded : Binary64 → Option Int
  | .finite negative significand exponent =>
    let (n, d) := ratio significand exponent
    let r : Int := roundDiv .away n d
    some (if negative then -r else r)
  | _ => none

end Binary64

/-- the double nearest to `± num / den`; `none` beyond the largest double -/
def ofRatio? (negative : Bool) (num den : Nat) : Option Float :=
  (Binary64.nearest? num den).map fun (significand, exponent) =>
    Binary64.pack negative significand exponent

/-- the double nearest to `± digits * 10 ^ exponent`; `none` beyond the largest double -/
def ofDecimal? (negative : Bool) (digits : Nat) (exponent : Int) : Option Float :=
  if digits = 0 then ofRatio? negative 0 1
  else
    let length : Int := (Nat.toDigits 10 digits).length
    if 400 < length + exponent then none
    else if length + exponent < -400 then ofRatio? negative 0 1
    else if 0 ≤ exponent then ofRatio? negative (digits * Nat.pow 10 exponent.toNat) 1
    else ofRatio? negative digits (Nat.pow 10 (-exponent).toNat)

/-- the double nearest to a natural number below `2 ^ 64` -/
def floatOfUInt64 (n : UInt64) : Float :=
  n.toFloat

/-- the double nearest to a signed 64-bit number -/
def floatOfInt64 (n : Int64) : Float :=
  n.toFloat

/-- a whole number brought into the signed 64-bit range -/
def clampInt64 (i : Int) : Int64 :=
  if i < Int64.minValue.toInt then Int64.minValue
  else if Int64.maxValue.toInt < i then Int64.maxValue
  else Int64.ofInt i

/-- a double rounded to a whole number, halves away from zero, and brought into the signed 64-bit
range; not-a-number gives zero -/
def roundToInt64 (x : Float) : Int64 :=
  match Binary64.ofFloat x with
  | .nan => 0
  | .infinite negative => if negative then Int64.minValue else Int64.maxValue
  | value => (value.rounded.map clampInt64).getD 0

/-- a double rounded to a whole number, halves away from zero, and brought into the unsigned 64-bit
range; not-a-number gives zero -/
def roundToUInt64 (x : Float) : UInt64 :=
  match Binary64.ofFloat x with
  | .nan => 0
  | .infinite negative => if negative then 0 else UInt64.ofNat (UInt64.size - 1)
  | value => UInt64.ofNat (min (value.rounded.getD 0).toNat (UInt64.size - 1))

end ChainFeed
