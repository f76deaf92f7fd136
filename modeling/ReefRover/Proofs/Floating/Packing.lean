import ReefRover.Proofs.Floating.Rounding

/-!
This module contains how floating-point numbers are packed. What is unpacked has the only mantissa
and exponent that stand for its number, such a number comes back from packing unless it is too
large, and the order of such numbers is the order of their values.
-/

namespace ReefRover

namespace Floating

open Float.Model
open UnpackedFloat (Sign pack unpack packComponents unpackExponent unpackMantissa unpackSign
  unpackExponent_packComponents unpackMantissa_packComponents unpackSign_packComponents)

variable {format : Format} {m : Nat} {e : Int}

theorem minExponent_eq (format : Format) :
    format.minExponent = 1 - (format.exponentBias + format.mantissaBitsWithoutImplicit : Nat) := by
  have hpos := Nat.two_pow_pos (format.exponentBits - 1)
  unfold Format.minExponent Format.exponentBias Format.mantissaBits
  push_cast [Nat.cast_sub (Nat.one_le_of_lt hpos)]
  ring

theorem two_pow_exponentBits (format : Format) :
    2 ^ format.exponentBits = 2 * (format.exponentBias + 1) := by
  have hpos := Nat.two_pow_pos (format.exponentBits - 1)
  have hbits : format.exponentBits = format.exponentBits - 1 + 1 := by
    have hbits := format.he
    omega
  unfold Format.exponentBias
  conv_lhs => rw [hbits, Nat.pow_succ]
  omega

theorem toNat_one_append {n : Nat} (v : BitVec n) : (1#1 ++ v).toNat = 2 ^ n + v.toNat := by
  have hone : (1#1).toNat = 1 := rfl
  rw [BitVec.toNat_append, Nat.or_comm, Nat.shiftLeft_eq, hone, Nat.one_mul]
  exact (Nat.or_two_pow_eq_add_of_lt v.isLt).trans (Nat.add_comm _ _)

theorem inFormat_unpack (format : Format) (b : BitVec format.numBits) :
    InFormat format (unpack format b) := by
  have hmin := minExponent_eq format
  have hlt := (unpackMantissa b).isLt
  have hpow := pow_mantissaBits format
  unfold UnpackedFloat.unpack
  dsimp only
  split
  . split
    . trivial
    . trivial
  . split
    . next hexponent =>
      split
      . trivial
      . rw [hexponent]
        have hzero : ((0#(format.exponentBits)).toNat : Int) = 0 := rfl
        exact ⟨by omega, by rw [hzero]; omega, .inl (by rw [hzero]; omega)⟩
    . next hexponent =>
      have hpos : 0 < (unpackExponent b).toNat := by
        apply Nat.pos_of_ne_zero
        intro hzero
        exact hexponent (BitVec.eq_of_toNat_eq hzero)
      refine ⟨?_, by omega, .inr ?_⟩
      . rw [toNat_one_append]
        omega
      . rw [toNat_one_append]
        omega

theorem exponent_unpack_le (hbits : 2 ≤ format.exponentBits) {b : BitVec format.numBits}
    {sign : Sign} {hm : 0 < m} (h : unpack format b = .finite sign m e hm) :
    e + format.mantissaBits ≤ format.exponentBias + 1 := by
  have hcapacity := two_pow_exponentBits format
  have hpow : 2 ^ 2 ≤ 2 ^ format.exponentBits := Nat.pow_le_pow_right (by decide) hbits
  have hlt := (unpackExponent b).isLt
  unfold UnpackedFloat.unpack at h
  unfold Format.mantissaBits
  dsimp only at h
  split at h
  . split at h <;> cases h
  . next hspecial =>
    have hne : (unpackExponent b).toNat ≠ 2 ^ format.exponentBits - 1 := by
      intro heq
      apply hspecial
      rw [BitVec.neg_one_eq_allOnes]
      apply BitVec.eq_of_toNat_eq
      rw [heq, BitVec.toNat_allOnes]
    split at h
    . next hzero =>
      split at h
      . cases h
      . rw [hzero] at h
        cases h
        have hzero : ((0#(format.exponentBits)).toNat : Int) = 0 := rfl
        omega
    . cases h
      omega

theorem abs_value_unpack_lt (hbits : 2 ≤ format.exponentBits) (b : BitVec format.numBits) :
    |value (unpack format b)| < 2 ^ (format.exponentBias + 1) := by
  have hformat := inFormat_unpack format b
  cases hunpack : unpack format b with
  | notANumber | infinity | zero =>
    change |(0 : ℝ)| < _
    rw [abs_zero]
    positivity
  | finite sign m e hm =>
    have hexponent := exponent_unpack_le hbits hunpack
    rw [hunpack] at hformat
    calc |value (.finite sign m e hm)| = m * 2 ^ e := abs_value_finite sign hm e
      _ < 2 ^ (format.mantissaBits + e : Int) := mul_two_zpow_lt hformat.lt e
      _ ≤ 2 ^ ((format.exponentBias + 1 : Nat) : Int) := two_zpow_le (by omega)
      _ = 2 ^ (format.exponentBias + 1) := zpow_natCast _ _

/-! ### What comes back -/

theorem toNat_ofNat_exponent {b : Nat} (hb : b + 1 < 2 ^ format.exponentBits) :
    (BitVec.ofNat format.exponentBits b).toNat = b := by
  rw [BitVec.toNat_ofNat, Nat.mod_eq_of_lt (by omega)]

theorem exponent_ne_neg_one {v : BitVec format.exponentBits}
    (h : v.toNat + 1 < 2 ^ format.exponentBits) : v ≠ -1#_ := by
  rintro rfl
  rw [BitVec.neg_one_eq_allOnes, BitVec.toNat_allOnes] at h
  omega

theorem sign_ofBitVec_toBitVec (sign : Sign) : Sign.ofBitVec sign.toBitVec = sign := by
  cases sign <;> rfl

theorem unpack_packComponents_normal (sign : Sign) {b : Nat} (hpos : 0 < b)
    (hb : b + 1 < 2 ^ format.exponentBits) (hm : 0 < m) (hlt : m < 2 ^ format.mantissaBits)
    (hfull : 2 ^ format.mantissaBitsWithoutImplicit ≤ m) :
    unpack format (packComponents format sign (BitVec.ofNat _ b) (BitVec.ofNat _ m)) =
      .finite sign m (b - (format.exponentBias + format.mantissaBitsWithoutImplicit)) hm := by
  have hexponent := toNat_ofNat_exponent hb
  have hne : BitVec.ofNat format.exponentBits b ≠ 0#_ := by
    intro hzero
    rw [hzero] at hexponent
    exact hpos.ne hexponent
  have hmantissa : (1#1 ++ BitVec.ofNat format.mantissaBitsWithoutImplicit m).toNat = m := by
    rw [pow_mantissaBits] at hlt
    rw [toNat_one_append, BitVec.toNat_ofNat, Nat.mod_eq_sub_mod hfull, Nat.mod_eq_of_lt (by omega)]
    omega
  unfold UnpackedFloat.unpack
  simp only [unpackExponent_packComponents, unpackMantissa_packComponents,
    unpackSign_packComponents, sign_ofBitVec_toBitVec,
    if_neg (exponent_ne_neg_one (hexponent.symm ▸ hb)), if_neg hne, hexponent, hmantissa]

theorem unpack_packComponents_small (sign : Sign) (hbits : 2 ≤ format.exponentBits) (hm : 0 < m)
    (hlt : m < 2 ^ format.mantissaBitsWithoutImplicit) :
    unpack format (packComponents format sign (0#_) (BitVec.ofNat _ m)) =
      .finite sign m format.minExponent hm := by
  have hpow : 2 ^ 2 ≤ 2 ^ format.exponentBits := Nat.pow_le_pow_right (by decide) hbits
  have hexponent : (0#(format.exponentBits)).toNat + 1 < 2 ^ format.exponentBits := by
    rw [BitVec.toNat_zero]
    omega
  have hmantissa : (BitVec.ofNat format.mantissaBitsWithoutImplicit m).toNat = m := by
    rw [BitVec.toNat_ofNat, Nat.mod_eq_of_lt hlt]
  have hne : BitVec.ofNat format.mantissaBitsWithoutImplicit m ≠ 0#_ := by
    intro hzero
    rw [hzero] at hmantissa
    exact hm.ne hmantissa
  have hmin : ((0#(format.exponentBits)).toNat : Int) -
      (format.exponentBias + format.mantissaBitsWithoutImplicit) + 1 = format.minExponent := by
    rw [minExponent_eq, BitVec.toNat_zero]
    push_cast
    ring
  unfold UnpackedFloat.unpack
  simp only [unpackExponent_packComponents, unpackMantissa_packComponents,
    unpackSign_packComponents, sign_ofBitVec_toBitVec, if_neg (exponent_ne_neg_one hexponent),
    if_true, dif_neg hne, hmantissa, hmin]

theorem unpack_pack (sign : Sign) (hbits : 2 ≤ format.exponentBits) (hm : 0 < m)
    (h : Canonical format m e) (hsize : (m * 2 ^ e : ℝ) < 2 ^ (format.exponentBias + 1)) :
    unpack format (pack format (.finite sign m e hm)) = .finite sign m e hm := by
  have hmin := minExponent_eq format
  have hcapacity := two_pow_exponentBits format
  have hlow := h.min_le
  have hlog : m.log2 < format.mantissaBits := (Nat.log2_lt hm.ne').mpr h.lt
  have hexponent : m.log2 + e < format.exponentBias + 1 := by
    have hpow : (2 : ℝ) ^ (m.log2 + e) < 2 ^ ((format.exponentBias + 1 : Nat) : Int) := by
      rw [zpow_natCast]
      exact (two_zpow_log2_le (approximates_self m) hm.ne' e).trans_lt hsize
    have hlt := lt_of_two_zpow_lt hpow
    omega
  unfold UnpackedFloat.pack
  dsimp only
  by_cases hfull : 2 ^ format.mantissaBitsWithoutImplicit ≤ m
  . have hlogm : format.mantissaBitsWithoutImplicit ≤ m.log2 := (Nat.le_log2 hm.ne').mpr hfull
    unfold Format.mantissaBits at hlog ⊢
    rw [if_neg (by omega), if_pos (by omega),
      unpack_packComponents_normal sign (by omega) (by omega) hm h.lt hfull]
    congr 1
    omega
  . have hsmall : m < 2 ^ format.mantissaBitsWithoutImplicit := Nat.lt_of_not_le hfull
    have hlogm : m.log2 < format.mantissaBitsWithoutImplicit := (Nat.log2_lt hm.ne').mpr hsmall
    have hpow : 2 ^ 2 ≤ 2 ^ format.exponentBits := Nat.pow_le_pow_right (by decide) hbits
    rw [h.full.resolve_right hfull] at *
    unfold Format.mantissaBits at hlog ⊢
    rw [if_neg (by omega), if_neg (by omega), unpack_packComponents_small sign hbits hm hsmall]

theorem unpack_pack_of_abs_lt {u : UnpackedFloat} (hbits : 2 ≤ format.exponentBits)
    (hu : u.isFinite = true) (hformat : InFormat format u)
    (hsize : |value u| < 2 ^ (format.exponentBias + 1)) : unpack format (pack format u) = u := by
  cases u with
  | notANumber | infinity => cases hu
  | zero sign => exact UnpackedFloat.unpack_packedZero
  | finite sign m e hm =>
    apply unpack_pack sign hbits hm hformat
    cases sign with
    | positive => exact lt_of_abs_lt hsize
    | negative => exact lt_of_neg_lt_neg (neg_lt_of_abs_lt hsize)

/-! ### Order -/

theorem Canonical.lt_of_exponent_lt {m' : Nat} {e' : Int} (h : Canonical format m e)
    (h' : Canonical format m' e') (he : e < e') : (m * 2 ^ e : ℝ) < m' * 2 ^ e' := by
  have hfull := h'.full.resolve_left (h.min_le.trans_lt he).ne'
  have hm' : (2 : ℝ) ^ (format.mantissaBitsWithoutImplicit : Int) ≤ m' := by
    rw [zpow_natCast]
    exact_mod_cast hfull
  calc (m * 2 ^ e : ℝ) < 2 ^ (format.mantissaBits + e : Int) := mul_two_zpow_lt h.lt e
    _ ≤ 2 ^ (format.mantissaBitsWithoutImplicit + e' : Int) := by
      apply two_zpow_le
      unfold Format.mantissaBits
      omega
    _ = 2 ^ (format.mantissaBitsWithoutImplicit : Int) * 2 ^ e' := two_zpow_add _ _
    _ ≤ m' * 2 ^ e' := mul_le_mul_of_nonneg_right hm' (two_zpow_pos e').le

theorem Canonical.compare_eq {m' : Nat} {e' : Int} (h : Canonical format m e)
    (h' : Canonical format m' e') :
    (compare e e').then (compare m m') = compare (m * 2 ^ e : ℝ) (m' * 2 ^ e') := by
  rcases lt_trichotomy e e' with he | rfl | he
  . rw [compare_lt_iff_lt.mpr he, compare_lt_iff_lt.mpr (h.lt_of_exponent_lt h' he)]
    rfl
  . rw [compare_eq_iff_eq.mpr rfl, Ordering.eq_then]
    rcases lt_trichotomy m m' with hm | rfl | hm
    . rw [compare_lt_iff_lt.mpr hm, eq_comm, compare_lt_iff_lt]
      exact mul_lt_mul_of_pos_right (by exact_mod_cast hm) (two_zpow_pos e)
    . rw [compare_eq_iff_eq.mpr rfl, compare_eq_iff_eq.mpr rfl]
    . rw [compare_gt_iff_gt.mpr hm, eq_comm, compare_gt_iff_gt]
      exact mul_lt_mul_of_pos_right (by exact_mod_cast hm) (two_zpow_pos e)
  . rw [compare_gt_iff_gt.mpr he, compare_gt_iff_gt.mpr (h'.lt_of_exponent_lt h he)]
    rfl

theorem swap_compare (a b : ℝ) : (compare a b).swap = compare (-a) (-b) := by
  rcases lt_trichotomy a b with h | rfl | h
  . rw [compare_lt_iff_lt.mpr h, compare_gt_iff_gt.mpr (neg_lt_neg h)]
    rfl
  . rw [compare_eq_iff_eq.mpr rfl, compare_eq_iff_eq.mpr rfl]
    rfl
  . rw [compare_gt_iff_gt.mpr h, compare_lt_iff_lt.mpr (neg_lt_neg h)]
    rfl

theorem compare_eq {u v : UnpackedFloat} (hu : u.isFinite = true) (hv : v.isFinite = true)
    (hformat : InFormat format u) (hformat' : InFormat format v) :
    u.compare v = some (compare (value u) (value v)) := by
  cases u with
  | notANumber | infinity => cases hu
  | zero sign =>
    cases v with
    | notANumber | infinity => cases hv
    | zero sign' => exact congrArg some (compare_eq_iff_eq.mpr rfl).symm
    | finite sign' m' e' hm' =>
      have hpos := mantissa_pos hm' e'
      cases sign' with
      | positive => exact congrArg some (compare_lt_iff_lt.mpr hpos).symm
      | negative =>
        exact congrArg some (compare_gt_iff_gt.mpr (neg_lt_zero.mpr hpos)).symm
  | finite sign m e hm =>
    have hpos := mantissa_pos hm e
    cases v with
    | notANumber | infinity => cases hv
    | zero sign' =>
      cases sign with
      | positive => exact congrArg some (compare_gt_iff_gt.mpr hpos).symm
      | negative =>
        exact congrArg some (compare_lt_iff_lt.mpr (neg_lt_zero.mpr hpos)).symm
    | finite sign' m' e' hm' =>
      have hpos' := mantissa_pos hm' e'
      cases sign with
      | positive =>
        cases sign' with
        | positive => exact congrArg some (hformat.compare_eq hformat')
        | negative =>
          have hlt := (neg_lt_zero.mpr hpos').trans hpos
          exact congrArg some (compare_gt_iff_gt.mpr hlt).symm
      | negative =>
        cases sign' with
        | positive =>
          have hlt := (neg_lt_zero.mpr hpos).trans hpos'
          exact congrArg some (compare_lt_iff_lt.mpr hlt).symm
        | negative =>
          have hswap := swap_compare (m * 2 ^ e) (m' * 2 ^ e')
          rw [← hformat.compare_eq hformat'] at hswap
          exact congrArg some hswap

end Floating

end ReefRover
