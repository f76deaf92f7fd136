import Mathlib
import ReefRover.Layout
import ReefRover.Proofs.Scalar.Exact

/-!
This module contains what arithmetic has to do with the size of things: how sums, products,
comparisons and distances of lengths behave when all lengths grow by the factor of the enlarged
layout.
-/

namespace ReefRover

namespace Scalar

variable {R : Type} [Scalar R]

def stretched (length : R) : R :=
  length * Layout.enlarged.factor

class Stretches (R : Type) [Scalar R] : Prop where
  stretched_add (a b : R) : stretched (a + b) = stretched a + stretched b
  stretched_sub (a b : R) : stretched (a - b) = stretched a - stretched b
  stretched_mul (a b : R) : stretched (a * b) = stretched a * b
  stretched_mul' (a b : R) : stretched (a * b) = a * stretched b
  stretched_div (a b : R) : stretched (a / b) = stretched a / b
  div_stretched (a b : R) : stretched a / stretched b = a / b
  lt_stretched (a b : R) : stretched a < stretched b ↔ a < b
  beq_stretched (a b : R) : (stretched a == stretched b) = (a == b)
  sqrt_stretched (a b : R) :
    sqrt (stretched a * stretched a + stretched b * stretched b) = stretched (sqrt (a * a + b * b))
  mul_normal (a : R) : a * Layout.normal.factor = a

end Scalar

/-! The facts about real numbers, before they get the operations of a `Scalar`. -/

section Reals

theorem sqrt_scaled {k : ℝ} (hk : 0 < k) (a b : ℝ) :
    √(a * k * (a * k) + b * k * (b * k)) = √(a * a + b * b) * k := by
  have hsquares : a * k * (a * k) + b * k * (b * k) = (a * a + b * b) * k ^ 2 := by ring
  rw [hsquares, Real.sqrt_mul' _ (sq_nonneg k), Real.sqrt_sq hk.le]

theorem ratio_pos : (0 : ℝ) < (3 : ℕ) / (2 : ℕ) := by
  norm_num

theorem mul_ratio (a : ℝ) : a * ((3 : ℕ) / (2 : ℕ)) = 3 / 2 * a := by
  rw [Nat.cast_ofNat, Nat.cast_ofNat, mul_comm]

theorem mul_ratio_one (a : ℝ) : a * (1 : ℕ) = a := by
  rw [Nat.cast_one, mul_one]

end Reals

namespace Exact

variable [Exact]

instance : Scalar.Stretches ℝ where
  stretched_add a b := add_mul a b _
  stretched_sub a b := sub_mul a b _
  stretched_mul a b := mul_right_comm a b _
  stretched_mul' a b := mul_assoc a b _
  stretched_div a b := div_mul_eq_mul_div a b _
  div_stretched a b := mul_div_mul_right a b ratio_pos.ne'
  lt_stretched _ _ := mul_lt_mul_iff_left₀ ratio_pos
  beq_stretched a b := by
    have hinj : Scalar.stretched a = Scalar.stretched b ↔ a = b := mul_left_inj' ratio_pos.ne'
    rw [Bool.eq_iff_iff, beq_iff_eq, beq_iff_eq, hinj]
  sqrt_stretched a b := sqrt_scaled ratio_pos a b
  mul_normal := mul_ratio_one

theorem stretched_eq (x : ℝ) : Scalar.stretched x = 3 / 2 * x :=
  mul_ratio x

end Exact

end ReefRover
