import Mathlib
import ReefRover.Scalar.Single
import ReefRover.Tuning

/-!
This module contains where undefined numbers come from, and where they cannot come from. In single
precision a sum or a difference of a defined number and a finite one is defined, and of two defined
numbers one is at most the other.
-/

namespace ReefRover

namespace Single

open Float.Model

/-! ### Unpacked numbers -/

theorem isNaN_round (format : Format) (sign : UnpackedFloat.Sign) (mantissa : Nat)
    (exponent : Int) : (UnpackedFloat.round format sign mantissa exponent).isNaN = false := by
  unfold UnpackedFloat.round UnpackedFloat.roundWithAccuracy
  dsimp only
  split
  . rfl
  . rfl

theorem isNaN_normalize (format : Format) (mantissa exponent : Int)
    (sign : UnpackedFloat.Sign) :
    (UnpackedFloat.normalize format mantissa exponent sign).isNaN = false := by
  unfold UnpackedFloat.normalize
  split
  . exact isNaN_round ..
  . rfl
  . exact isNaN_round ..

theorem isNaN_add {a b : UnpackedFloat} (format : Format) (ha : a.isNaN = false)
    (hb : b.isFinite = true) : (UnpackedFloat.add format a b).isNaN = false := by
  cases b with
  | notANumber | infinity sign => cases hb
  | zero sign =>
    cases a with
    | notANumber => cases ha
    | infinity sign' | finite sign' m' e' hm' => rfl
    | zero sign' =>
      unfold UnpackedFloat.add
      dsimp only
      split
      . rfl
      . rfl
  | finite sign m e hm =>
    cases a with
    | notANumber => cases ha
    | infinity sign' | zero sign' => rfl
    | finite sign' m' e' hm' => exact isNaN_normalize ..

theorem isNaN_sub {a b : UnpackedFloat} (format : Format) (ha : a.isNaN = false)
    (hb : b.isFinite = true) : (UnpackedFloat.sub format a b).isNaN = false := by
  cases b with
  | notANumber | infinity sign => cases hb
  | zero sign =>
    cases a with
    | notANumber => cases ha
    | infinity sign' | finite sign' m' e' hm' => rfl
    | zero sign' =>
      unfold UnpackedFloat.sub
      dsimp only
      split
      . rfl
      . rfl
  | finite sign m e hm =>
    cases a with
    | notANumber => cases ha
    | infinity sign' | zero sign' => rfl
    | finite sign' m' e' hm' => exact isNaN_normalize ..

theorem compare_swap {a b : UnpackedFloat} (ha : a.isNaN = false) (hb : b.isNaN = false) :
    ∃ order, a.compare b = some order ∧ b.compare a = some order.swap := by
  cases a with
  | notANumber => cases ha
  | infinity sign =>
    cases b with
    | notANumber => cases hb
    | infinity sign' => cases sign <;> cases sign' <;> exact ⟨_, rfl, rfl⟩
    | zero | finite => cases sign <;> exact ⟨_, rfl, rfl⟩
  | zero sign =>
    cases b with
    | notANumber => cases hb
    | zero => exact ⟨_, rfl, rfl⟩
    | infinity sign' | finite sign' => cases sign' <;> exact ⟨_, rfl, rfl⟩
  | finite sign m e =>
    cases b with
    | notANumber => cases hb
    | infinity sign' => cases sign' <;> exact ⟨_, rfl, rfl⟩
    | zero => cases sign <;> exact ⟨_, rfl, rfl⟩
    | finite sign' m' e' =>
      have hswap : ((compare e e').then (compare m m')).swap =
          (compare e' e).then (compare m' m) := by
        rw [Ordering.swap_then, Int.compare_swap, Nat.compare_swap]
      cases sign <;> cases sign'
      . refine ⟨_, rfl, ?_⟩
        unfold UnpackedFloat.compare
        rw [hswap]
      . exact ⟨_, rfl, rfl⟩
      . exact ⟨_, rfl, rfl⟩
      . refine ⟨_, rfl, ?_⟩
        unfold UnpackedFloat.compare
        rw [hswap]

/-! ### Packed numbers -/

theorem isNaN_unpack {format : Format} {b : BitVec format.numBits}
    (h : UnpackedFloat.unpackExponent b ≠ -1#_ ∨ UnpackedFloat.unpackMantissa b = 0#_) :
    (UnpackedFloat.unpack format b).isNaN = false := by
  unfold UnpackedFloat.unpack
  dsimp only
  split
  . next hexponent =>
    rw [if_pos (h.resolve_left (absurd hexponent))]
    rfl
  . split
    . split
      . rfl
      . rfl
    . rfl

theorem isNaN_unpack_pack {format : Format} (hformat : 2 ≤ format.exponentBits)
    {a : UnpackedFloat} (ha : a.isNaN = false) :
    (UnpackedFloat.unpack format (UnpackedFloat.pack format a)).isNaN = false := by
  have hpow : 2 ^ 2 ≤ 2 ^ format.exponentBits := Nat.pow_le_pow_right (by decide) hformat
  cases a with
  | notANumber => cases ha
  | infinity sign =>
    apply isNaN_unpack
    right
    exact UnpackedFloat.unpackMantissa_packComponents
  | zero sign => rw [UnpackedFloat.pack, UnpackedFloat.unpack_packedZero]; rfl
  | finite sign m e hm =>
    apply isNaN_unpack
    unfold UnpackedFloat.pack
    dsimp only
    split
    . right
      exact UnpackedFloat.unpackMantissa_packComponents
    . next hfits =>
      left
      split
      . rw [UnpackedFloat.unpackExponent_packComponents, BitVec.neg_one_eq_allOnes]
        intro heq
        replace heq := congrArg BitVec.toNat heq
        rw [BitVec.toNat_ofNat, BitVec.toNat_allOnes, Nat.mod_eq_of_lt (by omega)] at heq
        omega
      . rw [UnpackedFloat.unpackExponent_packComponents, BitVec.neg_one_eq_allOnes]
        intro heq
        replace heq := congrArg BitVec.toNat heq
        rw [BitVec.toNat_ofNat, BitVec.toNat_allOnes, Nat.zero_mod] at heq
        omega

/-! ### Numbers of single precision -/

theorem isUndefined_eq (a : Float32) : Scalar.isUndefined a = a.toModel.unpack.isNaN := by
  have hbeq := UnpackedFloat.beq_iff_ne_notANumber_and_eq a.toModel.unpack a.toModel.unpack
  change (!a.toModel.unpack.beq a.toModel.unpack) = _
  rw [Bool.eq_iff_iff, Bool.not_eq_true', ← Bool.not_eq_true, hbeq, UnpackedFloat.isNaN_iff]
  simp

theorem isUndefined_add {a b : Float32} (ha : Scalar.isUndefined a = false)
    (hb : Scalar.isFinite b = true) : Scalar.isUndefined (a + b) = false := by
  rw [isUndefined_eq] at ha
  rw [isUndefined_eq]
  exact isNaN_unpack_pack (by decide) (isNaN_add Format.binary32 ha hb)

theorem isUndefined_sub {a b : Float32} (ha : Scalar.isUndefined a = false)
    (hb : Scalar.isFinite b = true) : Scalar.isUndefined (a - b) = false := by
  rw [isUndefined_eq] at ha
  rw [isUndefined_eq]
  exact isNaN_unpack_pack (by decide) (isNaN_sub Format.binary32 ha hb)

theorem lt_iff (a b : Float32) : a < b ↔ a.toModel.unpack.compare b.toModel.unpack = some .lt := by
  change decide (a.toModel < b.toModel) = true ↔ _
  rw [decide_eq_true_iff]
  exact beq_iff_eq

theorem le_iff (a b : Float32) :
    a ≤ b ↔ (a.toModel.unpack.compare b.toModel.unpack).any (·.isLE) = true := by
  change decide (a.toModel ≤ b.toModel) = true ↔ _
  rw [decide_eq_true_iff]
  rfl

theorem lt_of_not_le {a b : Float32} (ha : Scalar.isUndefined a = false)
    (hb : Scalar.isUndefined b = false) (h : ¬ a ≤ b) : b < a := by
  rw [isUndefined_eq] at ha hb
  obtain ⟨order, hcompare, hswap⟩ := compare_swap ha hb
  rw [le_iff, hcompare] at h
  rw [lt_iff, hswap]
  cases order with
  | lt | eq => exact absurd rfl h
  | gt => rfl

theorem le_of_not_lt {a b : Float32} (ha : Scalar.isUndefined a = false)
    (hb : Scalar.isUndefined b = false) (h : ¬ b < a) : a ≤ b := by
  rw [isUndefined_eq] at ha hb
  obtain ⟨order, hcompare, hswap⟩ := compare_swap ha hb
  rw [lt_iff, hswap] at h
  rw [le_iff, hcompare]
  cases order with
  | lt | eq => rfl
  | gt => exact absurd rfl h

theorem le_of_lt {a b : Float32} (h : a < b) : a ≤ b := by
  rw [lt_iff] at h
  rw [le_iff, h]
  rfl

theorem le_refl {a : Float32} (ha : Scalar.isUndefined a = false) : a ≤ a :=
  Classical.byContradiction fun hnot => hnot (le_of_lt (lt_of_not_le ha ha hnot))

theorem isFinite_of_lt {low high a : Float32} (hlow : Scalar.isFinite low = true)
    (hhigh : Scalar.isFinite high = true) (ha : low < a) (hnot : ¬ high < a) :
    Scalar.isFinite a = true := by
  change low.toModel.unpack.isFinite = true at hlow
  change high.toModel.unpack.isFinite = true at hhigh
  change a.toModel.unpack.isFinite = true
  rw [lt_iff] at ha hnot
  cases hunpack : a.toModel.unpack with
  | zero | finite => rfl
  | notANumber =>
    rw [hunpack] at ha
    cases hlow' : low.toModel.unpack <;> rw [hlow'] at ha <;> cases ha
  | infinity sign =>
    rw [hunpack] at ha hnot
    cases sign with
    | positive =>
      exfalso
      apply hnot
      cases hhigh' : high.toModel.unpack with
      | notANumber | infinity => rw [hhigh'] at hhigh; cases hhigh
      | zero | finite => rfl
    | negative =>
      exfalso
      cases hlow' : low.toModel.unpack with
      | notANumber | infinity => rw [hlow'] at hlow; cases hlow
      | zero | finite => rw [hlow'] at ha; cases ha

theorem isUndefined_lesser {a b : Float32} (ha : Scalar.isUndefined a = false)
    (hb : Scalar.isUndefined b = false) : Scalar.isUndefined (Scalar.lesser a b) = false := by
  unfold Scalar.lesser
  split
  . exact hb
  . split
    . exact hb
    . exact ha

theorem lesser_le {a b : Float32} (ha : Scalar.isUndefined a = false)
    (hb : Scalar.isUndefined b = false) : Scalar.lesser a b ≤ b := by
  unfold Scalar.lesser
  rw [ha, if_neg Bool.false_ne_true]
  split
  . exact le_refl hb
  . next hnot => exact le_of_not_lt ha hb hnot

theorem isFinite_lesser {frame : Float32} (h : Scalar.zero < frame) :
    Scalar.isFinite (Scalar.lesser frame Tuning.maxFrame) = true := by
  have hmost : Scalar.isFinite (Tuning.maxFrame : Float32) = true := by decide
  unfold Scalar.lesser
  split
  . exact hmost
  . split
    . exact hmost
    . next hnot => exact isFinite_of_lt (by decide) hmost h hnot

end Single

end ReefRover
