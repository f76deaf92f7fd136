import ReefRover.Proofs.Floating.Single
import ReefRover.Scalar.Single

/-!
This module contains what numbers of single precision are as counts: the whole part of a number,
held to the range of 32-bit numbers.
-/

namespace ReefRover

open Float.Model
open Floating

namespace Floating

theorem toNat_toInt_of_neg {u : UnpackedFloat} (low high : Int) (hu : u.isFinite = true)
    (hneg : value u < 0) : (u.toInt low high).toNat = 0 := by
  cases u with
  | notANumber | infinity => cases hu
  | zero => rfl
  | finite sign m e hm =>
    cases sign with
    | positive => exact absurd (mantissa_pos hm e) hneg.not_gt
    | negative => exact Int.toNat_eq_zero.mpr (Int.neg_nonpos_of_nonneg (Int.natCast_nonneg _))

theorem toNat_toInt {u : UnpackedFloat} (low high : Int) (hu : u.isFinite = true) :
    (u.toInt low high).toNat = ⌊value u⌋₊ := by
  rcases lt_or_ge (value u) 0 with hneg | hnonneg
  . rw [toNat_toInt_of_neg low high hu hneg, Nat.floor_of_nonpos hneg.le]
  . obtain ⟨n, hn, hle, hlt⟩ := exists_toInt low high hu hnonneg
    rw [hn, Int.toNat_natCast]
    exact ((Nat.floor_eq_iff hnonneg).mpr ⟨hle, hlt⟩).symm

end Floating

namespace Single

theorem toNat_ofNatClamp (n : Nat) : (UInt32.ofNatClamp n).toNat = min n (2 ^ 32 - 1) := by
  unfold UInt32.ofNatClamp
  split
  . next h =>
    rw [UInt32.toNat_ofNatLT]
    exact (Nat.min_eq_left (Nat.le_sub_one_of_lt h)).symm
  . next h =>
    rw [UInt32.toNat_ofNatLT]
    have hle : UInt32.size ≤ n := Nat.le_of_not_lt h
    exact (Nat.min_eq_right ((Nat.sub_le _ 1).trans hle)).symm

theorem count_eq {x : Float32} (hx : Scalar.isFinite x = true) :
    Scalar.count x = min ⌊toReal x⌋₊ (2 ^ 32 - 1) := by
  have hfinite : (unpacked x).isFinite = true := hx
  change (UInt32.ofNatClamp ((unpacked x).toInt 0 (UInt32.size - 1)).toNat).toNat = _
  rw [toNat_ofNatClamp, toNat_toInt 0 (UInt32.size - 1) hfinite]
  rfl

theorem count_eq_of_finite {x : Float32} (hx : Scalar.isFinite x = true) :
    Scalar.count x = if toReal x < 1 then 0 else min ⌊toReal x⌋₊ (2 ^ 32 - 1) := by
  rw [count_eq hx]
  split
  . next h =>
    rw [Nat.floor_eq_zero.mpr h]
    exact Nat.zero_min _
  . rfl

end Single

end ReefRover
