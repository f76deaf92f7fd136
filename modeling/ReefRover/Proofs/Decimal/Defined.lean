import Mathlib
import ReefRover.Proofs.Codec.Number
import ReefRover.Proofs.Decimal.Power
import ReefRover.Proofs.Scalar.Undefined

/-!
This module contains that no written number is undefined. A numeral is read as a product or a
quotient of a whole number and a power of ten, and the powers of ten that are multiplied or divided
by are neither zero nor infinite.
-/

namespace ReefRover

open Float.Model

namespace Single

theorem isNaN_roundWithAccuracy (format : Format) (sign : UnpackedFloat.Sign) (mantissa : Nat)
    (exponent : Int) (accuracy : UnpackedFloat.Accuracy) :
    (UnpackedFloat.roundWithAccuracy format sign mantissa exponent accuracy).isNaN = false := by
  unfold UnpackedFloat.roundWithAccuracy
  dsimp only
  split
  . rfl
  . rfl

theorem isNaN_mul {a b : UnpackedFloat} (format : Format) (ha : a.isNaN = false)
    (hb : isRegular b = true) : (UnpackedFloat.mul format a b).isNaN = false := by
  cases b with
  | notANumber | infinity sign | zero sign => cases hb
  | finite sign m e hm =>
    cases a with
    | notANumber => cases ha
    | infinity sign' | zero sign' => rfl
    | finite sign' m' e' hm' => exact isNaN_roundWithAccuracy ..

theorem isNaN_div {a b : UnpackedFloat} (format : Format) (ha : a.isNaN = false)
    (hb : isRegular b = true) : (UnpackedFloat.div format a b).isNaN = false := by
  cases b with
  | notANumber | infinity sign | zero sign => cases hb
  | finite sign m e hm =>
    cases a with
    | notANumber => cases ha
    | infinity sign' | zero sign' => rfl
    | finite sign' m' e' hm' => exact isNaN_roundWithAccuracy ..

theorem isNaN_neg {a : UnpackedFloat} (ha : a.isNaN = false) : a.neg.isNaN = false := by
  cases a with
  | notANumber => cases ha
  | infinity sign | zero sign | finite sign m e hm => rfl

theorem isNaN_ofScientific (format : Format) (m : Nat) (e : Int) :
    (UnpackedFloat.ofScientific format m e).isNaN = false := by
  unfold UnpackedFloat.ofScientific
  split
  . rfl
  . split
    . rfl
    . split
      . rfl
      . split
        . exact isNaN_mul format rfl rfl
        . exact isNaN_div format rfl rfl

/-! ### Numbers of double precision -/

theorem double_mul {x y : Float} (hx : x.isNaN = false) (hy : isRegular y.toModel.unpack = true) :
    (x * y).isNaN = false :=
  isNaN_unpack_pack (by decide) (isNaN_mul Format.binary64 hx hy)

theorem double_div {x y : Float} (hx : x.isNaN = false) (hy : isRegular y.toModel.unpack = true) :
    (x / y).isNaN = false :=
  isNaN_unpack_pack (by decide) (isNaN_div Format.binary64 hx hy)

theorem double_neg {x : Float} (hx : x.isNaN = false) : (-x).isNaN = false :=
  isNaN_unpack_pack (by decide) (isNaN_neg hx)

theorem double_ofUInt64 (n : UInt64) : n.toFloat.isNaN = false :=
  isNaN_unpack_pack (by decide) (isNaN_normalize ..)

/-! ### Numbers of single precision -/

theorem single_mul {x y : Float32} (hx : x.isNaN = false)
    (hy : isRegular y.toModel.unpack = true) : (x * y).isNaN = false :=
  isNaN_unpack_pack (by decide) (isNaN_mul Format.binary32 hx hy)

theorem single_div {x y : Float32} (hx : x.isNaN = false)
    (hy : isRegular y.toModel.unpack = true) : (x / y).isNaN = false :=
  isNaN_unpack_pack (by decide) (isNaN_div Format.binary32 hx hy)

theorem single_neg {x : Float32} (hx : x.isNaN = false) : (-x).isNaN = false :=
  isNaN_unpack_pack (by decide) (isNaN_neg hx)

theorem single_ofUInt64 (n : UInt64) : n.toFloat32.isNaN = false :=
  isNaN_unpack_pack (by decide) (isNaN_normalize ..)

theorem isRegular_power {e : Nat} (h : e < Float32.exactlyRepresentablePowersOfTen.size) :
    isRegular Float32.exactlyRepresentablePowersOfTen[e].toModel.unpack = true := by
  have hall : ∀ e : Fin 11, isRegular
      (Float32.exactlyRepresentablePowersOfTen.getD e.val 0).toModel.unpack = true := by
    decide +kernel
  have := hall ⟨e, h⟩
  rwa [Array.getD_eq_getD_getElem?, Array.getElem?_eq_getElem h, Option.getD_some] at this

theorem single_ofScientific (m : Nat) (negative : Bool) (e : Nat) :
    (Float32.ofScientific m negative e).isNaN = false := by
  unfold Float32.ofScientific
  split
  . next h =>
    dsimp only
    split
    . exact single_div (single_ofUInt64 _) (isRegular_power _)
    . exact single_mul (single_ofUInt64 _) (isRegular_power _)
  . exact isNaN_unpack_pack (by decide) (isNaN_ofScientific ..)

theorem isNaN_narrow {x : Float} (hx : x.isNaN = false) : (narrow x).isNaN = false := by
  unfold narrow
  rw [hx, if_neg Bool.false_ne_true]
  split
  . split
    . decide
    . decide
  . unfold Binary.toSingle
    dsimp only
    split
    . split
      . exact single_neg (single_ofScientific ..)
      . exact single_neg (single_ofScientific ..)
    . split
      . exact single_ofScientific ..
      . exact single_ofScientific ..

theorem isFinite_of_defined {x : Float32} (hnan : x.isNaN = false) (hinf : x.isInf = false) :
    x.isFinite = true := by
  change x.toModel.unpack.isNaN = false at hnan
  change x.toModel.unpack.isInf = false at hinf
  change x.toModel.unpack.isFinite = true
  cases hunpack : x.toModel.unpack with
  | notANumber =>
    rw [hunpack] at hnan
    cases hnan
  | infinity sign =>
    rw [hunpack] at hinf
    cases hinf
  | zero sign | finite sign m e hm => rfl

end Single

namespace Numeral

open Single

theorem isNaN_scale? {parts : Nat} {x y : Float} {e : Int} (hx : x.isNaN = false)
    (h : scale? parts x e = some y) : y.isNaN = false := by
  induction parts generalizing x e with
  | zero =>
    cases h
    decide
  | succ parts ih =>
    unfold scale? at h
    split at h
    . next he =>
      split at h
      . dsimp only at h
        split at h
        . cases h
        . cases h
          exact double_mul hx (isRegular_powerOfTen he)
      . cases h
        exact double_div hx (isRegular_powerOfTen he)
    . split at h
      . cases h
        exact hx
      . split at h
        . cases h
        -- a smaller power is divided out in parts, each of which is a number of double precision
        . exact ih (double_div hx (isRegular_powerOfTen (Nat.le_refl 308))) h

theorem isNaN_double? {n : Numeral} {x : Float} (h : n.double? = some x) : x.isNaN = false := by
  obtain ⟨magnitude, hmagnitude, h⟩ := Option.bind_eq_some_iff.mp h
  have hdefined := isNaN_scale? (double_ofUInt64 _) hmagnitude
  cases h
  split
  . exact double_neg hdefined
  . exact hdefined

theorem isNaN_number? {n : Numeral} {x : Float} (h : n.number? = some (.double x)) :
    x.isNaN = false := by
  have hdouble : n.double?.map Number.double = some (.double x) := by
    unfold number? at h
    dsimp only at h
    split at h
    . split at h
      . cases h
      . split at h
        . cases h
        . exact h
    . exact h
  obtain ⟨y, hy, hxy⟩ := Option.map_eq_some_iff.mp hdouble
  cases hxy
  exact isNaN_double? hy

end Numeral

theorem Json.isNaN_of_singleField {j : Json} {x : Float32} (h : singleField j = .ok x) :
    x.isNaN = false := by
  obtain ⟨shape, hshape, h⟩ := bind_eq_ok_iff.mp h
  cases j with
  | num literal =>
    unfold Json.shape at hshape
    dsimp only at hshape
    split at hshape
    . next n hn =>
      cases hshape
      cases n with
      | unsigned n =>
        cases h
        exact Single.single_ofUInt64 n
      | negative n =>
        cases h
        exact Single.single_neg (Single.single_ofUInt64 n)
      | double x =>
        cases h
        exact Single.isNaN_narrow (Numeral.isNaN_number? hn)
    . cases hshape
  | null | bool value | str text | arr items | obj members =>
    cases hshape
    cases h

end ReefRover
