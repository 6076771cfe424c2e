/-
Decimal digits of doubles found in 64-bit arithmetic.

The interval of the reals that round to a double is scaled by a power of ten that is known to 64 bits
only, and shrunk by one unit at both ends to make up for that. Digits of its upper end are written until
what is left fits into the interval, and the last of them is then lowered towards the double. The digits
always read back, and are nearly always the fewest that do. From the tenth decimal place on the
last digit stays as it is.
-/
import ChainFeed.Number.Decimal

namespace ChainFeed

/-- the number `significand * 2 ^ exponent` -/
structure Scaled where
  significand : Nat
  exponent : Int
deriving DecidableEq, Repr

namespace Scaled

/-- the same number with a significand of 64 bits; digits below the last bit are cut -/
def normal (x : Scaled) : Scaled :=
  let bits := Nat.log2 x.significand + 1
  if bits ≤ 64 then ⟨x.significand * Nat.pow 2 (64 - bits), x.exponent - (64 - bits : Nat)⟩
  else ⟨x.significand / Nat.pow 2 (bits - 64), x.exponent + (bits - 64 : Nat)⟩

/-- the product, rounded to a multiple of `2 ^ 64` of the unit, a half going up -/
def times (x y : Scaled) : Scaled where
  significand := (x.significand * y.significand + Nat.pow 2 63) / Nat.pow 2 64
  exponent := x.exponent + y.exponent + 64

/-- a power of ten, to the nearest significand of 64 bits -/
def powerOfTen (n : Int) : Scaled :=
  let (num, den) := if 0 ≤ n then (Nat.pow 10 n.toNat, 1) else (1, Nat.pow 10 (-n).toNat)
  let guess : Int := (Nat.log2 num : Int) - (Nat.log2 den : Int) - 64
  let (a, b) := Binary64.scaled num den guess
  let exponent := if a / b < Nat.pow 2 64 then guess else guess + 1
  let (a, b) := Binary64.scaled num den exponent
  ⟨roundDiv .away a b, exponent⟩

/-- Of the powers of ten `10 ^ (8 n - 348)`, the one that brings a 64-bit number with the given exponent
to an exponent from -60 to -32. `30102999566398114 / 10 ^ 17` stands for the logarithm of two. -/
def balancingPower (exponent : Int) : Int :=
  let place := -((-((-61 - exponent) * 30102999566398114 + 347 * 100000000000000000)) / 100000000000000000)
  8 * (place / 8 + 1) - 348

end Scaled

/-- a scaled interval while the digits of its upper end are written -/
structure ScaledInterval where
  /-- the binary places after the point -/
  places : Nat
  /-- the distance from the lower to the upper end -/
  width : Nat
  /-- the distance from the double to the upper end -/
  slack : Nat
deriving DecidableEq, Repr

namespace ScaledInterval

/-- Lowers the last digit while that keeps inside of the interval and comes nearer to the double. `rest`
is what the digits leave of the upper end, `unit` the worth of the last digit. -/
def lowered (width slack unit : Nat) : Nat → Nat → Nat → Nat
  | 0, digits, _ => digits
  | tries + 1, digits, rest =>
    if rest < slack ∧ rest + unit ≤ width ∧
        (rest + unit < slack ∨ rest + unit - slack < slack - rest) then
      lowered width slack unit tries (digits - 1) (rest + unit)
    else digits

/-- Writes digits after the point, with the digits before it, what they leave, the width and the unit of
the slack grown to the place; after more than eight places the slack counts as none. -/
def fractionDigits (i : ScaledInterval) (digits rest width : Nat) (place : Nat) : Nat → Nat × Int
  | 0 => (digits, -place)
  | fuel + 1 =>
    let unit := Nat.pow 2 i.places
    let digits := digits * 10 + rest * 10 / unit
    let rest := rest * 10 % unit
    let width := width * 10
    let place := place + 1
    if rest < width then
      let slack := if place < 9 then i.slack * Nat.pow 10 place else 0
      (lowered width slack unit 10 digits rest, -place)
    else fractionDigits i digits rest width place fuel

/-- Writes digits before the point, of which `n` are left in `whole`. -/
def wholeDigits (i : ScaledInterval) (digits whole fraction : Nat) : Nat → Nat × Int
  | 0 => fractionDigits i digits fraction i.width 0 20
  | n + 1 =>
    let digits := digits * 10 + whole / Nat.pow 10 n
    let whole := whole % Nat.pow 10 n
    let rest := whole * Nat.pow 2 i.places + fraction
    if rest ≤ i.width then
      (lowered i.width i.slack (Nat.pow 10 n * Nat.pow 2 i.places) 10 digits rest, n)
    else wholeDigits i digits whole fraction n

end ScaledInterval

/-- the decimal that 64-bit arithmetic finds for the positive double `significand * 2 ^ exponent` -/
def Decimal.scaled (significand : Nat) (exponent : Int) : Decimal :=
  let upper := Scaled.normal ⟨2 * significand + 1, exponent - 1⟩
  let lower : Scaled :=
    if significand = Nat.pow 2 52 then ⟨4 * significand - 1, exponent - 2⟩
    else ⟨2 * significand - 1, exponent - 1⟩
  let lower : Scaled :=
    ⟨lower.significand * Nat.pow 2 (lower.exponent - upper.exponent).toNat, upper.exponent⟩
  let balance := Scaled.balancingPower upper.exponent
  let power := Scaled.powerOfTen balance
  let value := (Scaled.normal ⟨significand, exponent⟩).times power
  let upper := upper.times power
  let top := upper.significand - 1
  let bottom := (lower.times power).significand + 1
  let places := (-upper.exponent).toNat
  let whole := top / Nat.pow 2 places
  let interval : ScaledInterval := ⟨places, top - bottom, top - value.significand⟩
  let (digits, shift) :=
    interval.wholeDigits 0 whole (top % Nat.pow 2 places) (min 9 (Decimal.length whole))
  ⟨digits, shift - balance⟩

end ChainFeed
