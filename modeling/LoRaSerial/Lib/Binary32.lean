import Mathlib.Algebra.Field.Rat
import Mathlib.Algebra.Order.Ring.Rat
import Mathlib.Tactic.NormNum

namespace Binary32

/-- What a number of type float may be. -/
inductive Value where
  | finite (q : ℚ)
  | infinite (negative : Bool)
  | nan
  deriving DecidableEq

/-- The value of the 32 bits of a float. -/
def value (bits : Nat) : Value :=
  let negative := bits / 2 ^ 31 % 2 = 1
  let exponent : Nat := bits / 2 ^ 23 % 2 ^ 8
  let fraction : Nat := bits % 2 ^ 23
  if exponent = 255 then if fraction = 0 then .infinite negative else .nan
  else
    let significand : Nat := if exponent = 0 then fraction else 2 ^ 23 + fraction
    let magnitude := (significand : ℚ) * 2 ^ ((max exponent 1 : Nat) - 150 : ℤ)
    .finite (if negative then -magnitude else magnitude)

namespace Value

/-- The operators < and > against a number. They do not hold for NaN. -/
def below (q : ℚ) : Value → Bool
  | finite a => a < q
  | infinite negative => negative
  | nan => false

def above (q : ℚ) : Value → Bool
  | finite a => q < a
  | infinite negative => !negative
  | nan => false

/-- Not outside a range: a number of the range, or NaN. -/
def Within (low high : ℚ) (v : Value) : Prop := v.below low = false ∧ v.above high = false

theorem within_finite {low high q : ℚ} : (finite q).Within low high ↔ low ≤ q ∧ q ≤ high := by
  simp [Within,below,above]

theorem within_iff {low high : ℚ} {v : Value} :
    v.Within low high ↔ ¬(v.below low = true ∨ v.above high = true) := by
  rw [Within,not_or,Bool.not_eq_true,Bool.not_eq_true]

end Value

end Binary32
