import Mathlib
import ReefRover.Scalar

/-!
This module contains exact arithmetic: real numbers, which are never rounded. Two things are left
open, so that what is proved does not depend on them: which way a rotation faces, and which numbers
count as finite, so that programs which fail because of a number are not left out.
-/

namespace ReefRover

/-- What is left open about exact arithmetic. -/
class Exact where
  facing : ℝ → ℝ × ℝ
  isFinite : ℝ → Bool

namespace Exact

noncomputable def whole (x : ℝ) : ℤ :=
  if 0 ≤ x then ⌊x⌋ else ⌈x⌉

noncomputable instance [Exact] : Scalar ℝ where
  ofNat n := n
  isFinite := isFinite
  sqrt := Real.sqrt
  rem a b := a - b * whole (a / b)
  facing := facing
  count x := min ⌊x⌋₊ (2 ^ 32 - 1)
  decidableLT := Classical.decRel _
  decidableLE := Classical.decRel _

variable [Exact]

theorem lesser_eq_min (a b : ℝ) : Scalar.lesser a b = min a b := by
  have hdefined : Scalar.isUndefined a = false := by
    unfold Scalar.isUndefined
    rw [beq_self_eq_true]
    rfl
  unfold Scalar.lesser
  rw [hdefined, if_neg Bool.false_ne_true, min_def]
  split
  . next hlt => rw [if_neg (not_le.mpr hlt)]
  . next hnot => rw [if_pos (not_lt.mp hnot)]

end Exact

end ReefRover
