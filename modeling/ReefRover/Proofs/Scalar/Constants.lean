import ReefRover.Layout
import ReefRover.Proofs.Floating.Single
import ReefRover.Scalar.Single

/-!
This module contains where the constants of the simulation lie in single precision, and which
lengths and areas of a layout single precision has.
-/

namespace ReefRover

open Floating

namespace Single

theorem within_scalar {n : Nat} (hn : n < 2 ^ 24) : Within (Scalar.ofNat n : Float32) n n :=
  within_ofNat hn

theorem gives_ratio {p q : Nat} (hp : p < 2 ^ 24) (hq : q < 2 ^ 24) (hzero : q ≠ 0) :
    Gives (Scalar.ratio p q : Float32) (p / q) :=
  gives_div_of_eq (within_scalar hp) (within_scalar hq) (Nat.cast_ne_zero.mpr hzero)

theorem within_zero : Within (Scalar.zero : Float32) 0 0 := by
  have hzero := within_scalar (n := 0) (by decide)
  rwa [Nat.cast_zero] at hzero

theorem within_one : Within (Scalar.one : Float32) 1 1 := by
  have hone := within_scalar (n := 1) (by decide)
  rwa [Nat.cast_one] at hone

theorem bound_zero : Bound .binary32 (0 : ℝ) := by
  have hzero := bound_natCast (n := 0) (by decide)
  rwa [Nat.cast_zero] at hzero

theorem bound_one : Bound .binary32 (1 : ℝ) := by
  have hone := bound_natCast (n := 1) (by decide)
  rwa [Nat.cast_one] at hone

theorem bound_zpow {k : Int} (hk : -126 ≤ k ∧ k ≤ 127) : Bound .binary32 (2 ^ k) :=
  bound_two_zpow (le_trans (by decide) hk.1) (le_trans hk.2 (by decide))

end Single

namespace Tuning

open Single

theorem within_timestep : Within (timestep : Float32)
    ((1092 : Nat) * 2 ^ (-17 : Int)) ((1093 : Nat) * 2 ^ (-17 : Int)) := by
  apply (gives_ratio (p := 1) (q := 120) (by decide) (by decide) (by decide)).within
  . exact bound 1092 (-17) (abs_of_nonneg (by positivity)) (by decide) (by decide)
  . exact bound 1093 (-17) (abs_of_nonneg (by positivity)) (by decide) (by decide)
  . norm_num
  . norm_num

theorem within_motionDuration :
    Within (motionDuration : Float32) (2 ^ (-1 : Int)) (2 ^ (-1 : Int)) := by
  have hgives := gives_ratio (p := 1) (q := 2) (by decide) (by decide) (by decide)
  apply hgives.within (bound_zpow (by decide)) (bound_zpow (by decide))
  . norm_num
  . norm_num

theorem within_timeTolerance : Within (timeTolerance : Float32) 0 1 := by
  have hgives := gives_ratio (p := 1) (q := 100000) (by decide) (by decide) (by decide)
  apply hgives.within bound_zero bound_one
  . norm_num
  . norm_num

end Tuning

namespace Layout

open Single

/-- What the layout factor is, which is a number of single precision. -/
noncomputable def exactFactor : Layout → ℝ
  | normal => 1
  | enlarged => 3 / 2

theorem one_le_exactFactor (layout : Layout) : 1 ≤ layout.exactFactor := by
  cases layout with
  | normal => exact le_rfl
  | enlarged =>
    unfold exactFactor
    norm_num

theorem exactFactor_le (layout : Layout) : layout.exactFactor ≤ (3 : Nat) * 2 ^ (-1 : Int) := by
  cases layout with
  | normal =>
    unfold exactFactor
    norm_num
  | enlarged =>
    unfold exactFactor
    norm_num

theorem exactFactor_pos (layout : Layout) : 0 < layout.exactFactor :=
  zero_lt_one.trans_le layout.one_le_exactFactor

theorem within_factor (layout : Layout) :
    Within (layout.factor : Float32) layout.exactFactor layout.exactFactor := by
  cases layout with
  | normal => exact within_one
  | enlarged =>
    have hgives := gives_ratio (p := 3) (q := 2) (by decide) (by decide) (by decide)
    apply hgives.exactly
    refine bound 3 (-1) ?_ (by decide) (by decide)
    norm_num

theorem bound_scaled (layout : Layout) {b : ℝ} (n : Nat) (k : Int)
    (hb : b = n * 2 ^ k * layout.exactFactor) (hn : n < 2 ^ 22) (hk : -100 ≤ k ∧ k ≤ 100) :
    Bound .binary32 b := by
  rw [hb]
  cases layout with
  | normal =>
    refine bound n k ?_ (by omega) (by omega)
    rw [exactFactor, mul_one]
    exact abs_of_nonneg (by positivity)
  | enlarged =>
    refine bound (3 * n) (k - 1) ?_ (by omega) (by omega)
    have hhalf : (2 : ℝ) ^ (k - 1) = 2 ^ k / 2 := by
      rw [zpow_sub_one₀ (by norm_num : (2 : ℝ) ≠ 0), div_eq_mul_inv]
    rw [exactFactor, hhalf, abs_of_nonneg (by positivity)]
    push_cast
    ring

theorem bound_squared (layout : Layout) {b : ℝ} (n : Nat) (k : Int)
    (hb : b = n * 2 ^ k * (layout.exactFactor * layout.exactFactor)) (hn : n < 2 ^ 20)
    (hk : -100 ≤ k ∧ k ≤ 100) : Bound .binary32 b := by
  rw [hb]
  cases layout with
  | normal =>
    refine bound n k ?_ (by omega) (by omega)
    rw [exactFactor, mul_one, mul_one]
    exact abs_of_nonneg (by positivity)
  | enlarged =>
    refine bound (9 * n) (k - 2) ?_ (by omega) (by omega)
    have hquarter : (2 : ℝ) ^ (k - 2) = 2 ^ k / 4 := by
      rw [zpow_sub₀ (by norm_num : (2 : ℝ) ≠ 0)]
      norm_num
    rw [exactFactor, hquarter, abs_of_nonneg (by positivity)]
    push_cast
    ring

theorem within_scaled (layout : Layout) {n : Nat} (hn : n < 2 ^ 22) :
    Within (Scalar.ofNat n * layout.factor : Float32) (n * layout.exactFactor)
      (n * layout.exactFactor) := by
  apply (gives_mul_of_eq (within_scalar (hn.trans (by decide))) layout.within_factor).exactly
  apply layout.bound_scaled n 0 _ hn (by decide)
  rw [zpow_zero, mul_one]

theorem within_canvasSize (layout : Layout) :
    Within (layout.canvasSize : Float32) (400 * layout.exactFactor) (400 * layout.exactFactor) :=
  layout.within_scaled (n := 400) (by decide)

theorem within_center (layout : Layout) :
    Within (layout.canvasSize / Scalar.ofNat 2 : Float32) (200 * layout.exactFactor)
      (200 * layout.exactFactor) := by
  have hgives := gives_div_of_eq layout.within_canvasSize (within_scalar (n := 2) (by decide))
    (by norm_num)
  have hhalf : 400 * layout.exactFactor / (2 : Nat) = 200 * layout.exactFactor := by
    push_cast
    ring
  rw [hhalf] at hgives
  exact hgives.exactly (layout.bound_scaled 200 0 (by norm_num) (by decide) (by decide))

end Layout

end ReefRover
