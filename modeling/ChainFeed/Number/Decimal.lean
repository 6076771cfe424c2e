/-
Decimal digits of doubles: the shortest decimal that reads back, and a fixed number of places.
-/
import ChainFeed.Number.Binary64

namespace ChainFeed

/-- the positive decimal `digits * 10 ^ exponent` -/
structure Decimal where
  digits : Nat
  exponent : Int
deriving DecidableEq, Repr

namespace Decimal

/-- how many decimal digits a number has -/
def length (n : Nat) : Nat :=
  (Nat.toDigits 10 n).length

/-- the power of ten at or below a positive quotient -/
def magnitude (num den : Nat) : Int :=
  if den ≤ num then (length (num / den) : Int) - 1 else -(length ((den - 1) / num) : Int)

/-- the decimal as a quotient -/
def ratio (d : Decimal) : Nat × Nat :=
  if 0 ≤ d.exponent then (d.digits * Nat.pow 10 d.exponent.toNat, 1)
  else (d.digits, Nat.pow 10 (-d.exponent).toNat)

/-- whether the double nearest to the decimal is `significand * 2 ^ exponent` -/
def readsAs (d : Decimal) (significand : Nat) (exponent : Int) : Bool :=
  let (n, m) := d.ratio
  Binary64.nearest? n m == some (significand, exponent)

/-- of the two neighbours of a double on the grid of `10 ^ place`, the nearer one that reads back -/
def onGrid? (significand : Nat) (exponent place : Int) : Option Decimal :=
  let (num, den) := Binary64.ratio significand exponent
  let (n, d) :=
    if 0 ≤ place then (num, den * Nat.pow 10 place.toNat) else (num * Nat.pow 10 (-place).toNat, den)
  let below : Decimal := ⟨n / d, place⟩
  let above : Decimal := ⟨n / d + 1, place⟩
  let belowReads := below.digits != 0 && below.readsAs significand exponent
  let aboveReads := above.readsAs significand exponent
  let aboveNearer := d < 2 * (n % d) || (d == 2 * (n % d) && n / d % 2 == 1)
  if belowReads && aboveReads then some (if aboveNearer then above else below)
  else if belowReads then some below
  else if aboveReads then some above
  else none

/-- the exact decimal value of `significand * 2 ^ exponent` -/
def exact (significand : Nat) (exponent : Int) : Decimal :=
  if 0 ≤ exponent then ⟨significand * Nat.pow 2 exponent.toNat, 0⟩
  else ⟨significand * Nat.pow 5 (-exponent).toNat, exponent⟩

/-- the first grid, from a coarsest one on, on which a positive double has a decimal that reads back;
the exact value stands in where none of the given number of grids has one -/
def shortestFrom (significand : Nat) (exponent top : Int) : Nat → Decimal
  | 0 => exact significand exponent
  | grids + 1 =>
    match onGrid? significand exponent top with
    | some d => d
    | none => shortestFrom significand exponent (top - 1) grids

/-- the shortest decimal that reads back as the positive double `significand * 2 ^ exponent`, and of
those the nearest. The coarsest grid is that of the next power of ten, the text of a double just
below it. -/
def shortest (significand : Nat) (exponent : Int) : Decimal :=
  let (num, den) := Binary64.ratio significand exponent
  shortestFrom significand exponent (magnitude num den + 1) 18

/-- the digits of a decimal, most significant first -/
def digitChars (d : Decimal) : List Char :=
  Nat.toDigits 10 d.digits

end Decimal

/-- the text of a double with two decimal places, a half going to the even neighbour -/
def twoPlaces (x : Float) : String :=
  match Binary64.ofFloat x with
  | .nan => "NaN"
  | .infinite negative => if negative then "-inf" else "inf"
  | .finite negative significand exponent =>
    let (num, den) := Binary64.ratio significand exponent
    let hundredths := roundDiv .toEven (num * 100) den
    let fraction := hundredths % 100
    (if negative then "-" else "") ++ toString (hundredths / 100) ++ "." ++
      (if fraction < 10 then "0" else "") ++ toString fraction

end ChainFeed
