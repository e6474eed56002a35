import Mathlib.Algebra.GroupWithZero.Nat
import Mathlib.Tactic.Common

/-!
# Unsigned fixed-point numbers of 128 bits

A number is kept as a count of `10 ^ (-18)`.  Quotients and products are rounded down
and cut off at the largest integer of the width.  This stands for the type of the
external package `sp_arithmetic`.
-/

/-- A count of `10 ^ (-18)`. -/
structure FixedU128 where
  inner : ℕ
  inner_lt : inner < 2 ^ 128

namespace FixedU128

/-- What one is kept as. -/
def div : ℕ := 10 ^ 18

/-- The quotient of two integers. -/
def saturatingFromRational (numerator denominator : ℕ) : FixedU128 where
  inner := min (numerator * div / denominator) (2 ^ 128 - 1)
  inner_lt := by omega

/-- The product with an integer. -/
def saturatingMulInt (factor : FixedU128) (amount : ℕ) : ℕ :=
  min (factor.inner * amount / div) (2 ^ 128 - 1)

variable {factor : FixedU128} {amount : ℕ}

/-- A product with a factor of at least one is the amount and a surplus. -/
theorem saturatingMulInt_of_one_le (hfactor : div ≤ factor.inner) :
    factor.saturatingMulInt amount =
      min (amount + (factor.inner - div) * amount / div) (2 ^ 128 - 1) := by
  have hproduct : factor.inner * amount = div * amount + (factor.inner - div) * amount := by
    rw [← Nat.add_mul, Nat.add_sub_cancel' hfactor]
  rw [saturatingMulInt, hproduct, Nat.mul_add_div (by decide)]

theorem le_saturatingMulInt (hfactor : div ≤ factor.inner) (hamount : amount < 2 ^ 128) :
    amount ≤ factor.saturatingMulInt amount := by
  rw [saturatingMulInt_of_one_le hfactor]
  generalize (factor.inner - div) * amount / div = surplus
  omega

/-- The product is the amount itself if the surplus is less than one, or if there is
nothing larger. -/
theorem saturatingMulInt_eq_self_iff (hfactor : div ≤ factor.inner) (hamount : amount < 2 ^ 128) :
    factor.saturatingMulInt amount = amount ↔
      (factor.inner - div) * amount < div ∨ amount = 2 ^ 128 - 1 := by
  rw [saturatingMulInt_of_one_le hfactor, ← Nat.div_eq_zero_iff_lt (show 0 < div by decide)]
  generalize (factor.inner - div) * amount / div = surplus
  omega

end FixedU128
