/-
Whole powers of doubles: squaring with wide significands, so that the many roundings of a large power
stay far below the last bit of the result.
-/
import ChainFeed.Number.Binary64

namespace ChainFeed

/-- a non-negative number `significand * 2 ^ exponent` kept to 256 bits -/
structure Wide where
  significand : Nat
  exponent : Int
deriving DecidableEq, Repr

namespace Wide

/-- the bits kept of a significand -/
def width : Nat := 256

def one : Wide := ⟨1, 0⟩

/-- drops the bits beyond the width -/
def trim (w : Wide) : Wide :=
  let excess := Nat.log2 w.significand + 1 - width
  ⟨w.significand / Nat.pow 2 excess, w.exponent + excess⟩

def mul (a b : Wide) : Wide :=
  trim ⟨a.significand * b.significand, a.exponent + b.exponent⟩

/-- the `n`-th power -/
def pow (w : Wide) (n : Nat) : Wide :=
  if h : n = 0 then one
  else
    let half := pow w (n / 2)
    let square := half.mul half
    if n % 2 = 1 then square.mul w else square
termination_by n
decreasing_by omega

/-- the nearest double; zero if the number is too small for any other -/
def toFloat (w : Wide) : Float :=
  if (Nat.log2 w.significand : Int) + w.exponent < -1100 then 0.0
  else
    let (num, den) := Binary64.ratio w.significand w.exponent
    (ofRatio? false num den).getD (1.0 / 0.0)

end Wide

/-- the power of a double in `[0, 1]` with a whole exponent -/
def unitPower (x : Float) (n : Nat) : Float :=
  match Binary64.ofFloat x with
  | .finite _ significand exponent => (Wide.pow ⟨significand, exponent⟩ n).toFloat
  | _ => x

end ChainFeed
