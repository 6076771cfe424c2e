/-
Rounding a quotient of natural numbers to a whole number, with the tie rule as a parameter.

`roundDiv_near`: the result is within half a unit of the quotient.
-/
namespace ChainFeed

/-- where a quotient that lies halfway between two whole numbers goes -/
inductive Tie where
  | toEven
  | away
deriving DecidableEq, Repr

/-- whether a quotient halfway between `d` and `d + 1` goes up -/
def Tie.up : Tie → Nat → Bool
  | .toEven, d => d % 2 == 1
  | .away, _ => true

/-- `num / den` rounded to the nearest whole number -/
def roundDiv (tie : Tie) (num den : Nat) : Nat :=
  let d := num / den
  let r := num % den
  if 2 * r < den then d
  else if den < 2 * r then d + 1
  else if tie.up d then d + 1 else d

theorem roundDiv_near (tie : Tie) (num den : Nat) (h : 0 < den) :
    2 * num ≤ 2 * (den * roundDiv tie num den) + den ∧
      2 * (den * roundDiv tie num den) ≤ 2 * num + den := by
  have hm := Nat.div_add_mod num den
  have hr := Nat.mod_lt num h
  unfold roundDiv
  simp only
  split
  · omega
  · split
    · rw [Nat.mul_add]; omega
    · split
      · rw [Nat.mul_add]; omega
      · omega

end ChainFeed
