import Mathlib
import ReefRover.Decimal.Numeral

/-!
This module contains that no power of ten that fits double precision is zero or infinite there. A
whole number of at least 53 bits is rounded to one with a full mantissa, and its length tells the
exponent but for the one bit that rounding up may add.
-/

namespace ReefRover

namespace Single

open Float.Model
open UnpackedFloat (Accuracy ExtendedMantissa roundWithAccuracy shiftToTargetExponent
  shiftToExponent packComponents unpackExponent_packComponents)

def isRegular : UnpackedFloat → Bool
  | .finite .. => true
  | .notANumber | .infinity _ | .zero _ => false

/-! ### Rounding -/

theorem mantissa_shiftRight (em : ExtendedMantissa) (n : Nat) :
    (em >>> n).mantissa = em.mantissa >>> n := by
  change (Nat.repeat ExtendedMantissa.shiftRightOne n em).mantissa = _
  induction n with
  | zero => rfl
  | succ n ih =>
    rw [Nat.shiftRight_succ, ← ih]
    rfl

theorem roundedMantissa_bounds (em : ExtendedMantissa) :
    em.mantissa ≤ em.roundedMantissa ∧ em.roundedMantissa ≤ em.mantissa + 1 := by
  unfold ExtendedMantissa.roundedMantissa Accuracy.roundToNearestEven
  split
  . omega
  . omega
  . omega
  . omega

theorem log2_of_bounds {m k : Nat} (h : 2 ^ k ≤ m) (h' : m < 2 ^ (k + 1)) : m.log2 = k := by
  have hpos := Nat.two_pow_pos k
  exact (Nat.log2_eq_iff (by omega)).mpr ⟨h, h'⟩

theorem shiftRight_bounds {m : Nat} (h : 2 ^ 52 ≤ m) :
    2 ^ 52 ≤ m >>> (m.log2 - 52) ∧ m >>> (m.log2 - 52) < 2 ^ 53 := by
  have hm : m ≠ 0 := by omega
  have hlog : 52 ≤ m.log2 := (Nat.le_log2 hm).mpr h
  have hlow := Nat.log2_self_le hm
  have hhigh : m < 2 ^ (m.log2 + 1) := Nat.lt_log2_self
  have hsplit : 2 ^ m.log2 = 2 ^ 52 * 2 ^ (m.log2 - 52) := by
    rw [← Nat.pow_add, Nat.add_sub_cancel' hlog]
  have hpos := Nat.two_pow_pos (m.log2 - 52)
  rw [Nat.shiftRight_eq_div_pow]
  constructor
  . rw [Nat.le_div_iff_mul_le hpos]
    omega
  . rw [Nat.div_lt_iff_lt_mul hpos]
    omega

theorem shiftToTargetExponent_eq {m : Nat} {e : Int} (hm : 2 ^ 52 ≤ m)
    (he : -1022 ≤ m.log2 + e) :
    shiftToTargetExponent Format.binary64 m e .exact =
      (ExtendedMantissa.ofMantissaAndAccuracy m .exact >>> (m.log2 - 52),
        e + (m.log2 - 52 : Nat)) := by
  have hlog : 52 ≤ m.log2 := (Nat.le_log2 (by omega)).mpr hm
  have htarget : Format.binary64.targetExponent (totalExponent m e) =
      e + (m.log2 - 52 : Nat) := by
    change max (m.log2 + 1 + e - 53 : Int) (-1074) = _
    omega
  have hshift : (e + (m.log2 - 52 : Nat) - e).toNat = m.log2 - 52 := by omega
  unfold shiftToTargetExponent shiftToExponent
  dsimp only
  rw [htarget, hshift]

/-- Rounding up may take a mantissa to its next length, which the second shift takes back. -/
theorem roundWithAccuracy_large {m : Nat} {e : Int} (hm : 2 ^ 52 ≤ m)
    (he : -1022 ≤ m.log2 + e) :
    ∃ f e' hf,
      roundWithAccuracy Format.binary64 .positive m e .exact = .finite .positive f e' hf ∧
        f.log2 = 52 ∧ m.log2 + e - 52 ≤ e' ∧ e' ≤ m.log2 + e - 51 := by
  have hlog : 52 ≤ m.log2 := (Nat.le_log2 (by omega)).mpr hm
  -- the first shift leaves 53 bits, which rounding may carry to `2 ^ 53` and no further
  obtain ⟨hlow, hhigh⟩ := shiftRight_bounds hm
  have hfirst := shiftToTargetExponent_eq hm he
  have hem := mantissa_shiftRight (ExtendedMantissa.ofMantissaAndAccuracy m .exact) (m.log2 - 52)
  change _ = m >>> (m.log2 - 52) at hem
  generalize ExtendedMantissa.ofMantissaAndAccuracy m .exact >>> (m.log2 - 52) = em at hfirst hem
  obtain ⟨hround, hround'⟩ := roundedMantissa_bounds em
  generalize hr : em.roundedMantissa = r at hround hround'
  have hrlow : 2 ^ 52 ≤ r := by omega
  have hrlog : 52 ≤ r.log2 := (Nat.le_log2 (by omega)).mpr hrlow
  have hrlog' : r.log2 < 54 := (Nat.log2_lt (by omega)).mpr (by omega)
  have hsecond := shiftToTargetExponent_eq (e := e + (m.log2 - 52 : Nat)) hrlow (by omega)
  obtain ⟨hflow, hfhigh⟩ := shiftRight_bounds hrlow
  have hf := mantissa_shiftRight (ExtendedMantissa.ofMantissaAndAccuracy r .exact) (r.log2 - 52)
  change _ = r >>> (r.log2 - 52) at hf
  generalize ExtendedMantissa.ofMantissaAndAccuracy r .exact >>> (r.log2 - 52) = final
    at hsecond hf
  have hpos : final.mantissa ≠ 0 := by omega
  have hresult : roundWithAccuracy Format.binary64 .positive m e .exact =
      .finite .positive final.mantissa (e + (m.log2 - 52 : Nat) + (r.log2 - 52 : Nat))
        (Nat.pos_of_ne_zero hpos) := by
    unfold roundWithAccuracy
    rw [hfirst]
    dsimp only
    rw [hr, hsecond]
    exact dif_neg hpos
  exact ⟨_, _, _, hresult, log2_of_bounds (by omega) (by omega), by omega, by omega⟩

/-! ### Packing -/

theorem isRegular_unpack {b : BitVec Format.binary64.numBits}
    (hlow : 0 < (UnpackedFloat.unpackExponent b).toNat)
    (hhigh : (UnpackedFloat.unpackExponent b).toNat < 2047) :
    isRegular (UnpackedFloat.unpack Format.binary64 b) = true := by
  unfold UnpackedFloat.unpack
  dsimp only
  split
  . next h =>
    rw [h, BitVec.neg_one_eq_allOnes, BitVec.toNat_allOnes] at hhigh
    exact absurd hhigh (by decide)
  . split
    . next h =>
      rw [h] at hlow
      exact absurd hlow (by decide)
    . rfl

theorem isRegular_unpack_pack {f : Nat} {e : Int} (hf : 0 < f) (hlog : f.log2 = 52)
    (he : -1074 ≤ e) (he' : e ≤ 971) :
    isRegular (UnpackedFloat.unpack Format.binary64
      (UnpackedFloat.pack Format.binary64 (.finite .positive f e hf))) = true := by
  have hpack : UnpackedFloat.pack Format.binary64 (.finite .positive f e hf) =
      packComponents Format.binary64 .positive (BitVec.ofNat 11 (e + 1023 + 52).toNat)
        (BitVec.ofNat 52 f) := by
    unfold UnpackedFloat.pack
    dsimp only
    rw [if_neg, if_pos]
    . rfl
    . rw [hlog]
      rfl
    . change ¬ 2 ^ 11 ≤ (e + (1023 : Nat) + (52 : Nat)).toNat + 1
      omega
  have hexponent : (e + 1023 + 52).toNat % 2 ^ 11 = (e + 1023 + 52).toNat :=
    Nat.mod_eq_of_lt (by omega)
  rw [hpack]
  apply isRegular_unpack
  . rw [unpackExponent_packComponents, BitVec.toNat_ofNat, hexponent]
    omega
  . rw [unpackExponent_packComponents, BitVec.toNat_ofNat, hexponent]
    omega

end Single

namespace Numeral

open Float.Model
open Single

theorem isRegular_rounded {k last limit : Nat} (h : 22 < k) (hk : k ≤ last)
    (hlimit : 10 ^ last < 2 ^ limit) (hdouble : limit ≤ 1023) :
    isRegular (powerOfTen k).toModel.unpack = true := by
  have hlast : 2 ^ last ≤ 10 ^ last := Nat.pow_le_pow_left (by decide) last
  have hshort : last < limit :=
    (Nat.pow_lt_pow_iff_right (by decide)).mp (Nat.lt_of_le_of_lt hlast hlimit)
  have hupper : 10 ^ k ≤ 10 ^ last := Nat.pow_le_pow_right (by decide) hk
  have hone : 1 ≤ 10 ^ k := Nat.one_le_pow k 10 (by decide)
  have hlarge : 2 ^ 52 ≤ 1 <<< 53 * 10 ^ k := by
    rw [Nat.one_shiftLeft]
    omega
  have hlow : 53 ≤ (1 <<< 53 * 10 ^ k).log2 := by
    rw [Nat.le_log2 (by omega), Nat.one_shiftLeft]
    omega
  have hhigh : (1 <<< 53 * 10 ^ k).log2 < 53 + limit := by
    rw [Nat.log2_lt (by omega), Nat.one_shiftLeft, Nat.pow_add]
    omega
  obtain ⟨f, e, hf, hround, hlog, he, he'⟩ := roundWithAccuracy_large (e := -53) hlarge (by omega)
  have hscientific : UnpackedFloat.ofScientific Format.binary64 1 k = .finite .positive f e hf := by
    unfold UnpackedFloat.ofScientific
    rw [dif_neg (by decide), if_neg, if_neg, if_pos (by omega)]
    . exact hround
    . change ¬ (k : Int) < -(2 ^ 11 + (Nat.log2 1 : Int))
      omega
    . change ¬ (k : Int) > 2 ^ 11
      omega
  have hpower : powerOfTen k = Float.ofModel (Float.Model.ofScientific 1 k) := by
    unfold powerOfTen Float.ofScientific
    exact dif_neg (by omega)
  rw [hpower]
  change isRegular (UnpackedFloat.unpack Format.binary64 (UnpackedFloat.pack Format.binary64
    (UnpackedFloat.ofScientific Format.binary64 1 k))) = true
  rw [hscientific]
  exact isRegular_unpack_pack hf hlog (by omega) (by omega)

theorem isRegular_powerOfTen {k : Nat} (h : k ≤ 308) :
    isRegular (powerOfTen k).toModel.unpack = true := by
  by_cases hexact : k ≤ 22
  . have hall : ∀ k : Fin 23, isRegular (powerOfTen k.val).toModel.unpack = true := by
      decide +kernel
    exact hall ⟨k, Nat.lt_succ_of_le hexact⟩
  . by_cases hlast : k = 308
    . rw [hlast]
      decide +kernel
    -- the bound of one carry is too wide for the last power, which is computed instead
    . have hk : k ≤ 307 := by omega
      have hlimit : 10 ^ 307 < 2 ^ 1023 := by decide +kernel
      exact isRegular_rounded (Nat.lt_of_not_le hexact) hk hlimit (Nat.le_refl 1023)

end Numeral

end ReefRover
