import Mathlib.Algebra.Order.Field.Rat
import Mathlib.Data.Nat.Cast.Order.Field
import Mathlib.Tactic.Linarith
import Mathlib.Tactic.Positivity
import Mathlib.Tactic.Ring

/-!
# Parts per billion

A fixed-point number between zero and one, kept as a number of billionths.  A
product with an amount is rounded to the nearest integer, a half downwards; a
quotient of two integers is rounded down and cut off at one.  This stands for the
type of the external package `sp_arithmetic`.

`value` is the rational number that is meant.  The roundings are bounded on both
sides: a product is off by at most a half, a quotient by less than a billionth.
-/

/-- A number of billionths, at most a billion of them. -/
@[ext]
structure Perbill where
  parts : ℕ
  parts_le : parts ≤ 1000000000

namespace Perbill

/-- The number of parts that make one. -/
def accuracy : ℕ := 1000000000

/-- A percentage, cut off at one. -/
def ofPercent (percent : ℕ) : Perbill where
  parts := min percent 100 * 10000000
  parts_le := by omega

variable (numerator denominator : ℕ)

/-- The quotient of two integers. -/
def ofRational : Perbill where
  parts := min (numerator * accuracy / denominator) accuracy
  parts_le := Nat.min_le_right ..

variable (ratio : Perbill)

variable (amount : ℕ)

/-- The part of an amount that the number stands for. -/
def mul : ℕ :=
  let product := amount * ratio.parts
  product / accuracy + if accuracy / 2 < product % accuracy then 1 else 0

/-- A part of an amount is no more than the amount. -/
theorem mul_le : ratio.mul amount ≤ amount := by
  have hproduct : amount * ratio.parts ≤ amount * accuracy :=
    Nat.mul_le_mul_left amount ratio.parts_le
  have hdivision := Nat.div_add_mod (amount * ratio.parts) accuracy
  unfold mul
  generalize amount * ratio.parts = product at hproduct hdivision ⊢
  by_cases hround : accuracy / 2 < product % accuracy
  · simp only [if_pos hround]
    unfold accuracy at *
    omega
  · simp only [if_neg hround]
    unfold accuracy at *
    omega

theorem ofRational_mono {smaller larger : ℕ} (hle : smaller ≤ larger) (denominator : ℕ) :
    (ofRational smaller denominator).parts ≤ (ofRational larger denominator).parts :=
  min_le_min_right _ (Nat.div_le_div_right (Nat.mul_le_mul_right _ hle))

/-- A common factor of numerator and denominator does not matter. -/
theorem ofRational_mul_right {factor : ℕ} (hpos : 0 < factor) :
    ofRational (numerator * factor) (denominator * factor) =
      ofRational numerator denominator := by
  ext
  show min (numerator * factor * accuracy / (denominator * factor)) accuracy = _
  rw [Nat.mul_right_comm, Nat.mul_div_mul_right _ _ hpos]
  rfl

/-! ## Rounding errors -/

/-- The rational number that is meant. -/
def value : ℚ := ratio.parts / accuracy

theorem value_nonneg : 0 ≤ ratio.value := by
  unfold value
  positivity

theorem value_le_one : ratio.value ≤ 1 := by
  have hparts : (ratio.parts : ℚ) ≤ accuracy := by exact_mod_cast ratio.parts_le
  exact div_le_one_of_le₀ hparts (Nat.cast_nonneg _)

/-- A product is the nearest integer, in whole numbers. -/
theorem mul_nearest :
    2 * (accuracy * ratio.mul amount) ≤ 2 * (amount * ratio.parts) + accuracy ∧
      2 * (amount * ratio.parts) ≤ 2 * (accuracy * ratio.mul amount) + accuracy := by
  have hdivision := Nat.div_add_mod (amount * ratio.parts) accuracy
  unfold mul
  generalize amount * ratio.parts = product at hdivision ⊢
  by_cases hround : accuracy / 2 < product % accuracy
  · simp only [if_pos hround]
    have hrest := Nat.mod_lt product (show 0 < accuracy by decide)
    unfold accuracy at *
    omega
  · simp only [if_neg hround]
    unfold accuracy at *
    omega

theorem mul_le_value_mul : (ratio.mul amount : ℚ) ≤ ratio.value * amount + 1 / 2 := by
  have hnearest : (2 * (accuracy * ratio.mul amount) : ℚ) ≤
      2 * (amount * ratio.parts) + accuracy := by
    exact_mod_cast (ratio.mul_nearest amount).1
  unfold value
  unfold accuracy at *
  push_cast at *
  linarith

theorem value_mul_le : ratio.value * amount ≤ ratio.mul amount + 1 / 2 := by
  have hnearest : (2 * (amount * ratio.parts) : ℚ) ≤
      2 * (accuracy * ratio.mul amount) + accuracy := by
    exact_mod_cast (ratio.mul_nearest amount).2
  unfold value
  unfold accuracy at *
  push_cast at *
  linarith

/-- A quotient is rounded down. -/
theorem value_ofRational_le :
    (ofRational numerator denominator).value ≤ numerator / denominator := by
  have hparts : ((ofRational numerator denominator).parts : ℚ) ≤
      (numerator * accuracy / denominator : ℕ) := by
    exact_mod_cast Nat.min_le_left _ _
  unfold value
  rw [div_le_iff₀ (by norm_num [accuracy])]
  calc ((ofRational numerator denominator).parts : ℚ)
      ≤ (numerator * accuracy / denominator : ℕ) := hparts
    _ ≤ (numerator * accuracy : ℕ) / denominator := Nat.cast_div_le
    _ = numerator / denominator * accuracy := by push_cast; ring

/-- What a quotient loses is less than a billionth. -/
theorem lt_value_ofRational {numerator denominator : ℕ} (hle : numerator ≤ denominator)
    (hpos : 0 < denominator) :
    (numerator / denominator : ℚ) < (ofRational numerator denominator).value + 1 / accuracy := by
  have hquotient : numerator * accuracy / denominator ≤ accuracy :=
    Nat.div_le_of_le_mul (Nat.mul_le_mul_right _ hle)
  have hparts : (ofRational numerator denominator).parts = numerator * accuracy / denominator :=
    Nat.min_eq_left hquotient
  have hfloor : numerator * accuracy < denominator * (numerator * accuracy / denominator + 1) :=
    Nat.lt_mul_div_succ _ hpos
  rw [← hparts] at hfloor
  have hfloor : (numerator * accuracy : ℚ) <
      denominator * ((ofRational numerator denominator).parts + 1) := by
    exact_mod_cast hfloor
  unfold value
  rw [div_lt_iff₀ (by exact_mod_cast hpos), ← add_div, div_mul_eq_mul_div,
    lt_div_iff₀ (by norm_num [accuracy])]
  linarith

end Perbill
