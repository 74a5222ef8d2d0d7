import Mathlib.Algebra.Order.Floor.Ring
import Mathlib.Data.Int.Log
import Mathlib.Data.Rat.Floor

/-!
# Floats

An operation of a float rounds its exact result to a multiple of a power of two that has 53
binary digits, ties to even. Infinities, not-a-numbers and the sign of a zero are left out, so
that a result beyond the largest float is only rounded.
-/

namespace Python

/-- The integer nearest to a number, of two the even one. -/
def roundHalfEven (number : ℚ) : ℤ :=
  let below := ⌊number⌋
  let rest := 2 * (number - below)
  if rest < 1 ∨ (rest = 1 ∧ below % 2 = 0) then below else below + 1

/-- The distance of the floats around a number. -/
def spacing (number : ℚ) : ℚ := 2 ^ max (Int.log 2 |number| - 52) (-1074)

/-- The float nearest to a number. -/
def binary64 (number : ℚ) : ℚ := roundHalfEven (number / spacing number) * spacing number

/-- The literal `0.1`. -/
example : binary64 (1 / 10) = 3602879701896397 / 2 ^ 55 := by
  decide +kernel

/-- `0.1 + 0.2 > 0.3` -/
example : binary64 (3 / 10) < binary64 (binary64 (1 / 10) + binary64 (1 / 5)) := by
  decide +kernel

end Python
