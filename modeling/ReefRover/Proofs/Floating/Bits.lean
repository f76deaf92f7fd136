import ReefRover.Binary
import ReefRover.Proofs.Floating.Double
import ReefRover.Proofs.Floating.Single

/-!
This module contains how large the numbers are that words stand for, and that a number stays within
its bounds when it is brought from one precision into the other.
-/

namespace ReefRover

namespace Floating

open Float.Model
open UnpackedFloat (unpack unpackExponent unpackMantissa)

variable {format : Format}

/-! ### Words -/

theorem toNat_unpackMantissa (b : BitVec format.numBits) :
    (unpackMantissa b).toNat = b.toNat % 2 ^ format.mantissaBitsWithoutImplicit := by
  have hbits : format.mantissaBitsWithoutImplicit - 1 - 0 + 1 =
      format.mantissaBitsWithoutImplicit := by
    have hbits := format.hm
    omega
  unfold UnpackedFloat.unpackMantissa
  rw [BitVec.toNat_cast, BitVec.extractLsb_toNat, Nat.shiftRight_zero, hbits]

theorem toNat_unpackExponent (b : BitVec format.numBits) :
    (unpackExponent b).toNat =
      b.toNat / 2 ^ format.mantissaBitsWithoutImplicit % 2 ^ format.exponentBits := by
  have hbits : format.mantissaBitsWithoutImplicit + format.exponentBits - 1 -
      format.mantissaBitsWithoutImplicit + 1 = format.exponentBits := by
    have hbits := format.he
    omega
  unfold UnpackedFloat.unpackExponent
  rw [BitVec.toNat_cast, BitVec.extractLsb_toNat, Nat.shiftRight_eq_div_pow, hbits]

theorem exponent_ne_of_isFinite {b : BitVec format.numBits}
    (hfinite : (unpack format b).isFinite = true) : unpackExponent b ≠ -1#_ := by
  intro hspecial
  unfold UnpackedFloat.unpack at hfinite
  dsimp only at hfinite
  rw [if_pos hspecial] at hfinite
  split at hfinite
  . cases hfinite
  . cases hfinite

theorem abs_value_unpack {b : BitVec format.numBits}
    (hfinite : (unpack format b).isFinite = true) :
    let biased := (unpackExponent b).toNat
    let fraction := (unpackMantissa b).toNat
    |value (unpack format b)| =
      (if biased = 0 then fraction else fraction + 2 ^ format.mantissaBitsWithoutImplicit : Nat) *
        2 ^ (if biased = 0 then format.minExponent else format.minExponent + biased - 1) := by
  intro biased fraction
  have hmin := minExponent_eq format
  have hspecial := exponent_ne_of_isFinite hfinite
  unfold UnpackedFloat.unpack
  dsimp only
  rw [if_neg hspecial]
  by_cases hzero : unpackExponent b = 0#_
  . have hbiased : biased = 0 := congrArg BitVec.toNat hzero
    rw [if_pos hzero, if_pos hbiased, if_pos hbiased]
    split
    . next hfraction =>
      have hfraction : fraction = 0 := congrArg BitVec.toNat hfraction
      rw [hfraction, Nat.cast_zero, zero_mul]
      exact abs_zero
    . rw [abs_value_finite]
      congr 2
      change (biased : Int) - _ + 1 = _
      omega
  . have hbiased : biased ≠ 0 := fun heq => hzero (BitVec.eq_of_toNat_eq heq)
    rw [if_neg hzero, if_neg hbiased, if_neg hbiased, abs_value_finite, toNat_one_append,
      Nat.add_comm]
    congr 2
    change (biased : Int) - _ = _
    omega

end Floating

/-! ### Exact contents -/

namespace Binary

open Float.Model
open UnpackedFloat (unpackExponent)
open Floating

noncomputable def magnitude (b : Binary) : ℝ :=
  b.significand * 2 ^ b.exponent

theorem magnitude_ofSingle {x : Float32} (hx : (unpacked x).isFinite = true) :
    (ofSingle x).magnitude = |toReal x| := by
  have hvalue := abs_value_unpack hx
  dsimp only at hvalue
  rw [toNat_unpackExponent, toNat_unpackMantissa] at hvalue
  let biased := x.toBits.toNat / Nat.pow 2 23 % Nat.pow 2 8
  let fraction := x.toBits.toNat % Nat.pow 2 23
  have hsize : |toReal x| = (if biased = 0 then fraction else fraction + Nat.pow 2 23 : Nat) *
      2 ^ (if biased = 0 then -149 else -149 + biased - 1 : Int) := hvalue
  have hexponent : -149 + (biased : Int) - 1 = biased - 150 := by omega
  rw [hsize, hexponent]
  rfl

theorem magnitude_ofDouble {x : Float} (hx : (unpacked x).isFinite = true) :
    (ofDouble x).magnitude = |toReal x| := by
  have hvalue := abs_value_unpack hx
  dsimp only at hvalue
  rw [toNat_unpackExponent, toNat_unpackMantissa] at hvalue
  let biased := x.toBits.toNat / Nat.pow 2 52 % Nat.pow 2 11
  let fraction := x.toBits.toNat % Nat.pow 2 52
  have hsize : |toReal x| = (if biased = 0 then fraction else fraction + Nat.pow 2 52 : Nat) *
      2 ^ (if biased = 0 then -1074 else -1074 + biased - 1 : Int) := hvalue
  have hexponent : -1074 + (biased : Int) - 1 = biased - 1075 := by omega
  rw [hsize, hexponent]
  rfl

/-! ### Exponents -/

theorem abs_toReal_lt_of_exponent {x : Float32} (hx : (unpacked x).isFinite = true) {k : Nat}
    (hk : 1 < k) (h : x.toBits.toNat / 2 ^ 23 % 2 ^ 8 < k) : |toReal x| < 2 ^ (k - 127 : Int) := by
  rw [← magnitude_ofSingle hx]
  have hfraction : x.toBits.toNat % 2 ^ 23 < 2 ^ 23 := Nat.mod_lt _ (by decide)
  have hsignificand : (ofSingle x).significand < 2 ^ 24 := by
    change (if x.toBits.toNat / 2 ^ 23 % 2 ^ 8 = 0 then x.toBits.toNat % 2 ^ 23
      else x.toBits.toNat % 2 ^ 23 + 2 ^ 23) < _
    split
    . omega
    . omega
  have hexponent : (24 : Nat) + (ofSingle x).exponent ≤ k - 127 := by
    change (24 : Nat) + (if x.toBits.toNat / 2 ^ 23 % 2 ^ 8 = 0 then -149
      else ((x.toBits.toNat / 2 ^ 23 % 2 ^ 8 : Nat) : Int) - 150) ≤ _
    split
    . omega
    . omega
  exact (mul_two_zpow_lt hsignificand _).trans_le (two_zpow_le hexponent)

theorem exponent_lt_of_isFinite {x : Float32} (hx : (unpacked x).isFinite = true) :
    x.toBits.toNat / 2 ^ 23 % 2 ^ 8 < 255 := by
  have hne := exponent_ne_of_isFinite hx
  have hexponent : (@unpackExponent .binary32 (Stored.word x)).toNat ≠ 255 := by
    intro heq
    apply hne
    rw [BitVec.neg_one_eq_allOnes]
    apply BitVec.eq_of_toNat_eq
    rw [heq, BitVec.toNat_allOnes]
    rfl
  rw [toNat_unpackExponent] at hexponent
  change x.toBits.toNat / 2 ^ 23 % 2 ^ 8 ≠ 255 at hexponent
  omega

/-! ### Conversions -/

theorem le_log2_mul_pow {m k : Nat} (h : m * Nat.pow 5 k ≠ 0) : k ≤ (m * Nat.pow 5 k).log2 := by
  rw [Nat.le_log2 h]
  calc 2 ^ k ≤ 5 ^ k := Nat.pow_le_pow_left (by decide) k
    _ ≤ m * 5 ^ k :=
      Nat.le_mul_of_pos_left _ (Nat.pos_of_ne_zero (Nat.ne_zero_of_mul_ne_zero_left h))

theorem cast_whole (m k : Nat) : ((m * Nat.pow 2 k : Nat) : ℝ) = m * 2 ^ (k : Int) := by
  rw [zpow_natCast, Nat.pow_eq]
  push_cast
  rfl

theorem cast_fraction (m k : Nat) :
    ((m * Nat.pow 5 k : Nat) / 10 ^ k : ℝ) = m * 2 ^ (-k : Int) := by
  have hten : (10 : ℝ) ^ k = 2 ^ k * 5 ^ k := by
    rw [← mul_pow]
    norm_num
  rw [hten, zpow_neg, zpow_natCast, Nat.pow_eq, Nat.cast_mul, Nat.cast_pow, Nat.cast_ofNat]
  field_simp

theorem gives_toSingle (b : Binary) :
    ∃ x, b.toSingle = (if b.negative then -x else x) ∧ Gives x b.magnitude := by
  obtain ⟨negative, m, exponent⟩ := b
  unfold magnitude
  cases exponent with
  | ofNat k =>
    refine ⟨_, rfl, ?_⟩
    rw [Int.ofNat_eq_natCast, ← cast_whole]
    exact Single.gives_ofNat _
  | negSucc k =>
    refine ⟨_, rfl, ?_⟩
    rw [Int.negSucc_eq, ← Nat.cast_succ, ← cast_fraction]
    exact Single.gives_fraction _ fun h => (le_log2_mul_pow h).trans (Nat.le_add_left _ _)

theorem gives_toDouble (b : Binary) :
    ∃ x, b.toDouble = (if b.negative then -x else x) ∧ Gives x b.magnitude := by
  obtain ⟨negative, m, exponent⟩ := b
  unfold magnitude
  cases exponent with
  | ofNat k =>
    refine ⟨_, rfl, ?_⟩
    rw [Int.ofNat_eq_natCast, ← cast_whole]
    exact Double.gives_ofNat _
  | negSucc k =>
    refine ⟨_, rfl, ?_⟩
    rw [Int.negSucc_eq, ← Nat.cast_succ, ← cast_fraction]
    exact Double.gives_fraction _ fun h => (le_log2_mul_pow h).trans (Nat.le_add_left _ _)

end Binary

open Float.Model
open Floating

theorem not_special_of_isFinite {u : UnpackedFloat} (h : u.isFinite = true) :
    u.isNaN = false ∧ u.isInf = false := by
  cases u with
  | notANumber | infinity => cases h
  | zero | finite => exact ⟨rfl, rfl⟩

theorem within_narrow {x : Float} {c : ℝ} (hx : Within x (-c) c) (hc : Bound .binary32 c) :
    Within (narrow x) (-c) c := by
  obtain ⟨hnan, hinf⟩ : x.isNaN = false ∧ x.isInf = false := not_special_of_isFinite hx.isFinite
  obtain ⟨y, hy, hgives⟩ := (Binary.ofDouble x).gives_toSingle
  rw [Binary.magnitude_ofDouble hx.isFinite] at hgives
  have hwithin := hgives.within_abs hc ((abs_abs _).trans_le hx.abs_toReal_le)
  unfold narrow
  rw [hnan, if_neg Bool.false_ne_true, hinf, if_neg Bool.false_ne_true, hy]
  split
  . exact within_neg_abs hwithin
  . exact hwithin

theorem within_widen {x : Float32} {c : ℝ} (hx : Within x (-c) c) (hc : Bound .binary64 c) :
    Within (widen x) (-c) c := by
  obtain ⟨hnan, hinf⟩ : x.isNaN = false ∧ x.isInf = false := not_special_of_isFinite hx.isFinite
  obtain ⟨y, hy, hgives⟩ := (Binary.ofSingle x).gives_toDouble
  rw [Binary.magnitude_ofSingle hx.isFinite] at hgives
  have hwithin := hgives.within_abs hc ((abs_abs _).trans_le hx.abs_toReal_le)
  unfold widen
  rw [hnan, if_neg Bool.false_ne_true, hinf, if_neg Bool.false_ne_true, hy]
  split
  . exact within_neg_abs hwithin
  . exact hwithin

end ReefRover
