import ReefRover.Proofs.Floating.Bits
import ReefRover.Trig

/-!
This module contains bounds on sine and cosine in single precision. An angle is reduced to one
between -1 and 1, where no term of the polynomials is greater than 1, so neither of them leaves
`[-5, 5]`.
-/

namespace ReefRover

namespace Trig

open Floating

theorem atMost_one {x : Float} (h : x.isFinite = true ∧ -1 ≤ x ∧ x ≤ 1) : AtMost 1 x := by
  obtain ⟨hfinite, hge, hle⟩ := h
  have hx : Within x (toReal x) (toReal x) := ⟨hfinite, le_rfl, le_rfl⟩
  have hone : Within (1 : Float) (1 : Nat) (1 : Nat) := Double.within_ofNat (by decide)
  have hneg := within_neg hone
  rw [le_iff_toReal hneg hx, hneg.toReal_eq] at hge
  rw [le_iff_toReal hx hone, hone.toReal_eq] at hle
  exact ⟨hfinite, hge, hle⟩

/-! ### Polynomials -/

theorem atMost_narrow {n : Nat} {x : Float} (hx : AtMost n x) (hn : n < 2 ^ 24) :
    AtMost n (narrow x) :=
  within_narrow hx (Single.bound_natCast hn)

theorem atMost_sinePolynomial {x x2 : Float} (hx : AtMost 1 x) (hx2 : AtMost 1 x2) :
    AtMost 4 (sinePolynomial x x2) := by
  have hx3 := hx.mul hx2 (by decide)
  have hs1 := (atMost_one (x := Float.ofBits 0x3f81107605230bc4) (by decide +kernel)).add
    (hx2.mul (atMost_one (x := Float.ofBits 0xbf2994eb3774cf24) (by decide +kernel)) (by decide))
    (by decide)
  have hs := hx.add
    (hx3.mul (atMost_one (x := Float.ofBits 0xbfc555545995a603) (by decide +kernel)) (by decide))
    (by decide)
  exact atMost_narrow (hs.add ((hx3.mul hx2 (by decide)).mul hs1 (by decide)) (by decide))
    (by decide)

theorem atMost_cosinePolynomial {x2 : Float} (hx2 : AtMost 1 x2) (negated : Bool) :
    AtMost 5 (cosinePolynomial x2 negated) := by
  have hsigned : ∀ bits : UInt64, AtMost 1 (Float.ofBits bits) →
      AtMost 1 (if negated then -Float.ofBits bits else Float.ofBits bits) :=
    fun bits h => h.neg.ite h
  have hx4 := hx2.mul hx2 (by decide)
  have hc2 := (hsigned 0xbf56c087e89a359d (atMost_one (by decide +kernel))).add
    (hx2.mul (hsigned 0x3ef99343027bf8c3 (atMost_one (by decide +kernel))) (by decide)) (by decide)
  have hc1 := (hsigned 0x3ff0000000000000 (atMost_one (by decide +kernel))).add
    (hx2.mul (hsigned 0xbfdffffffd0c621c (atMost_one (by decide +kernel))) (by decide)) (by decide)
  have hc := hc1.add
    (hx4.mul (hsigned 0x3fa55553e1068f19 (atMost_one (by decide +kernel))) (by decide)) (by decide)
  exact atMost_narrow (hc.add ((hx4.mul hx2 (by decide)).mul hc2 (by decide)) (by decide))
    (by decide)

/-! ### Reduction of small angles -/

theorem abs_whole_sub_lt {n : Nat} {x : Float} (hx : AtMost n x) (hn : n < 2 ^ 53) :
    |(whole x : ℝ) - toReal x| < 1 := by
  have hzero : Within (0 : Float) (0 : Nat) (0 : Nat) := Double.within_ofNat (by decide)
  have hlt := lt_iff_toReal hx hzero
  rw [hzero.toReal_eq, Nat.cast_zero] at hlt
  unfold whole
  split
  . next hneg =>
    rw [hlt] at hneg
    have hself := within_neg (Within.self hx)
    have hrest : Within (-x) 0 n :=
      ⟨hself.isFinite, (neg_pos.mpr hneg).le.trans hself.ge, hx.neg.le⟩
    obtain ⟨hle, hlt⟩ := Double.toUInt64_bounds hrest (hn.trans (by decide))
    rw [hself.toReal_eq] at hle hlt
    rw [Int.cast_neg, Int.cast_natCast, abs_lt]
    constructor <;> linarith
  . next hnonneg =>
    rw [hlt, not_lt] at hnonneg
    obtain ⟨hle, hlt⟩ := Double.toUInt64_bounds ⟨hx.isFinite, hnonneg, hx.le⟩ (hn.trans (by decide))
    rw [Int.cast_natCast, abs_lt]
    constructor <;> linarith

theorem within_double {k : Int} (hk : k.natAbs < 2 ^ 53) : Within (double k) k k := by
  cases k with
  | ofNat n => exact Double.within_ofNat hk
  | negSucc n =>
    have hneg := within_neg (Double.within_ofNat (n := n + 1) hk)
    rw [Int.cast_negSucc]
    exact hneg

/-- The number of double precision nearest to `2 ^ 24 * 2 / π`. -/
noncomputable def quartersPerAngle : ℝ :=
  5734161139222659 * 2 ^ (-29 : Int)

/-- The number of double precision nearest to `π / 2`. -/
noncomputable def quarter : ℝ :=
  7074237752028440 * 2 ^ (-52 : Int)

theorem within_quartersPerAngle :
    Within (Float.ofBits 0x41645f306dc9c883) quartersPerAngle quartersPerAngle :=
  ⟨rfl, le_rfl, le_rfl⟩

theorem within_quarter : Within (Float.ofBits 0x3ff921fb54442d18) quarter quarter :=
  ⟨rfl, le_rfl, le_rfl⟩

theorem abs_sub_quarters_le {a scaled : ℝ} {w q : Int} (ha : |a| ≤ 128)
    (hscaled : |scaled - a * quartersPerAngle| ≤ 1) (hw : |w - scaled| < 1)
    (hq : q = (w + 0x800000) / 0x1000000) : |a - q * quarter| ≤ 19 / 20 := by
  have hdiff : |q * 2 ^ 24 - a * quartersPerAngle| ≤ 2 ^ 23 + 2 := by
    have hlow : (q * 2 ^ 24 : ℝ) ≤ w + 2 ^ 23 := by
      exact_mod_cast (by omega : q * 2 ^ 24 ≤ w + 2 ^ 23)
    have hhigh : (w : ℝ) ≤ q * 2 ^ 24 + 2 ^ 23 := by
      exact_mod_cast (by omega : w ≤ q * 2 ^ 24 + 2 ^ 23)
    rw [abs_le] at *
    rw [abs_lt] at hw
    constructor <;> linarith
  have hproduct : |1 - quartersPerAngle * quarter / 2 ^ 24| ≤ 1 / 1000 := by
    unfold quartersPerAngle quarter
    rw [abs_le]
    norm_num
  have hquarter : 0 ≤ quarter / 2 ^ 24 ∧ quarter / 2 ^ 24 * (2 ^ 23 + 2) ≤ 4 / 5 := by
    unfold quarter
    norm_num
  have hsplit : a - q * quarter = a * (1 - quartersPerAngle * quarter / 2 ^ 24) -
      (q * 2 ^ 24 - a * quartersPerAngle) * (quarter / 2 ^ 24) := by
    ring
  have hfirst : |a * (1 - quartersPerAngle * quarter / 2 ^ 24)| ≤ 128 * (1 / 1000) := by
    rw [abs_mul]
    exact mul_le_mul ha hproduct (abs_nonneg _) (by norm_num)
  have hsecond : |(q * 2 ^ 24 - a * quartersPerAngle) * (quarter / 2 ^ 24)| ≤ 4 / 5 := by
    rw [abs_mul, abs_of_nonneg hquarter.1, mul_comm]
    exact (mul_le_mul_of_nonneg_left hdiff hquarter.1).trans hquarter.2
  rw [hsplit]
  refine (abs_sub _ _).trans ((add_le_add hfirst hsecond).trans ?_)
  norm_num

theorem atMost_quartersPerAngle : AtMost (2 ^ 24) (Float.ofBits 0x41645f306dc9c883) := by
  apply within_quartersPerAngle.mono
  . unfold quartersPerAngle
    norm_num
  . unfold quartersPerAngle
    norm_num

theorem abs_scaled_sub_le {x : Float} (hx : AtMost 128 x) :
    |toReal (x * Float.ofBits 0x41645f306dc9c883) - toReal x * quartersPerAngle| ≤ 1 := by
  have hsize : |toReal x * quartersPerAngle| ≤ (128 : Nat) * (2 ^ 24 : Nat) := by
    rw [abs_mul, ← within_quartersPerAngle.toReal_eq]
    exact mul_le_mul hx.abs_toReal_le atMost_quartersPerAngle.abs_toReal_le (abs_nonneg _)
      (Nat.cast_nonneg _)
  have hlt : |toReal x * quartersPerAngle| < 2 ^ (32 : Int) := hsize.trans_lt (by norm_num)
  have hgives := gives_mul hx within_quartersPerAngle
  rw [within_quartersPerAngle.toReal_eq] at hgives
  exact (hgives.abs_sub_le (k := -21) (l := 32) rfl (by decide) (by decide) hlt).trans (by norm_num)

theorem natAbs_le_of_mul_quarter {q : Int} {n : Nat} (h : |q * quarter| ≤ n) : q.natAbs ≤ n := by
  have hquarter : 1 ≤ |quarter| := by
    unfold quarter
    norm_num
  have hreal : (q.natAbs : ℝ) ≤ n := by
    rw [Nat.cast_natAbs, Int.cast_abs]
    rw [abs_mul] at h
    exact (le_mul_of_one_le_right (abs_nonneg _) hquarter).trans h
  exact_mod_cast hreal

theorem atMost_reduceNear {x : Float} (hx : AtMost 128 x) : AtMost 1 (reduceNear x).rest := by
  let quarters := (whole (x * Float.ofBits 0x41645f306dc9c883) + 0x800000) / 0x1000000
  have hsize : |toReal x| ≤ 128 := hx.abs_toReal_le
  have hwhole := abs_whole_sub_lt (hx.mul atMost_quartersPerAngle (by decide)) (by decide)
  have hrest : |toReal x - quarters * quarter| ≤ 19 / 20 :=
    abs_sub_quarters_le hsize (abs_scaled_sub_le hx) hwhole rfl
  have hproduct : |quarters * quarter| ≤ (129 : Nat) := by
    rw [abs_le] at *
    push_cast
    constructor <;> linarith
  have hquarters : quarters.natAbs < 2 ^ 53 :=
    (natAbs_le_of_mul_quarter hproduct).trans_lt (by decide)
  have hgives := gives_mul_of_eq (within_double hquarters) within_quarter
  have hturned := hgives.within_abs (Double.bound_natCast (by decide)) hproduct
  have hlt : |quarters * quarter| < 2 ^ (8 : Int) := hproduct.trans_lt (by norm_num)
  have herror := hgives.abs_sub_le (k := -45) (l := 8) rfl (by decide) (by decide) hlt
  apply (gives_sub hx hturned).within_abs (Double.bound_natCast (by decide))
  norm_num at herror ⊢
  rw [abs_le] at *
  constructor <;> linarith

/-! ### Reduction of large angles -/

theorem rest_bounds (product : UInt64) :
    let rest := product - (((product + 0x2000000000000000) >>> 62) <<< 62)
    if rest < 0x8000000000000000 then rest.toNat ≤ 2 ^ 61 else 2 ^ 64 - rest.toNat ≤ 2 ^ 61 := by
  intro rest
  have hlt := product.toNat_lt
  have hshift : UInt64.toNat 62 % 64 = 62 := rfl
  have hhalf : UInt64.toNat 0x2000000000000000 = 2 ^ 61 := rfl
  have hrest : rest.toNat = (2 ^ 64 - (product.toNat + 2 ^ 61) % 2 ^ 64 / 2 ^ 62 * 2 ^ 62 % 2 ^ 64 +
      product.toNat) % 2 ^ 64 := by
    rw [UInt64.toNat_sub, UInt64.toNat_shiftLeft, UInt64.toNat_shiftRight, UInt64.toNat_add, hshift,
      hhalf, Nat.shiftRight_eq_div_pow, Nat.shiftLeft_eq]
  split
  . next h =>
    have h : rest.toNat < 2 ^ 63 := UInt64.lt_iff_toNat_lt.mp h
    omega
  . next h =>
    have h : ¬ rest.toNat < 2 ^ 63 := fun hlt => h (UInt64.lt_iff_toNat_lt.mpr hlt)
    omega

theorem bound_double_two_zpow {k : Int} (hk : -1022 ≤ k ∧ k ≤ 1023) : Bound .binary64 (2 ^ k) :=
  bound_two_zpow (le_trans (by decide) hk.1) (le_trans hk.2 (by decide))

theorem within_ofNat_of_le {n : Nat} (hn : n ≤ 2 ^ 61) :
    Within (Float.ofNat n) (-2 ^ (61 : Int)) (2 ^ (61 : Int)) := by
  have hn : (n : ℝ) ≤ (2 ^ 61 : Nat) := Nat.cast_le.mpr hn
  apply (Double.gives_ofNat n).within_abs (bound_double_two_zpow (by decide))
  rw [Nat.abs_cast]
  exact hn.trans (by norm_num)

theorem within_rest (product : UInt64) :
    let rest := product - (((product + 0x2000000000000000) >>> 62) <<< 62)
    Within (if rest < 0x8000000000000000 then Float.ofNat rest.toNat
      else -Float.ofNat (Nat.pow 2 64 - rest.toNat)) (-2 ^ (61 : Int)) (2 ^ (61 : Int)) := by
  intro rest
  have hbounds := rest_bounds product
  change if rest < _ then _ else _ at hbounds
  split at hbounds
  . next h =>
    rw [if_pos h]
    exact within_ofNat_of_le hbounds
  . next h =>
    rw [if_neg h]
    exact within_neg_abs (within_ofNat_of_le hbounds)

theorem within_halfQuarter : Within (Float.ofBits 0x3c1921fb54442d18)
    (-2 ^ (-61 : Int)) (2 ^ (-61 : Int)) := by
  have hself : Within (Float.ofBits 0x3c1921fb54442d18) (7074237752028440 * 2 ^ (-114 : Int))
      (7074237752028440 * 2 ^ (-114 : Int)) := ⟨rfl, le_rfl, le_rfl⟩
  exact hself.mono (by norm_num) (by norm_num)

theorem atMost_reduceFar (bits : UInt32) : AtMost 1 (reduceFar bits).rest := by
  have hone : Bound .binary64 ((1 : Nat) : ℝ) := Double.bound_natCast (by decide)
  exact within_mul_abs (within_rest _) within_halfQuarter hone (by norm_num)

/-! ### Sine and cosine -/

theorem atMost_ofReduced {a : Reduced} (ha : AtMost 1 a.rest) (turns : Int) (useCosine : Bool) :
    AtMost 5 (ofReduced a turns useCosine) := by
  have hsquare : AtMost 1 (a.rest * a.rest) := ha.mul ha (by decide)
  have hone : AtMost 1 (1 : Float) := atMost_one (by decide +kernel)
  unfold ofReduced
  dsimp only
  split
  . exact atMost_cosinePolynomial hsquare _
  . have hsigned := ha.mul (hone.neg.ite hone (p := turns % 4 == 1 || turns % 4 == 2)) (by decide)
    exact (atMost_sinePolynomial hsigned hsquare).mono (by decide)

theorem toNat_size (x : Float32) :
    ((x.toBits >>> 20) &&& 0x7ff).toNat = x.toBits.toNat / 2 ^ 20 % 2 ^ 11 := by
  have hmask : UInt32.toNat 0x7ff = 2 ^ 11 - 1 := rfl
  have hshift : UInt32.toNat 20 % 32 = 20 := rfl
  rw [UInt32.toNat_and, UInt32.toNat_shiftRight, hmask, hshift, Nat.and_two_pow_sub_one_eq_mod,
    Nat.shiftRight_eq_div_pow]

theorem atMost_of_size_lt {x : Float32} (hx : (unpacked x).isFinite = true) {bound : UInt32}
    {k n : Nat} (h : (x.toBits >>> 20) &&& 0x7ff < bound) (hk : 1 < k)
    (hbound : bound.toNat ≤ 8 * k) (hn : (2 : ℝ) ^ (k - 127 : Int) ≤ n) : AtMost n x := by
  have hsize := UInt32.lt_iff_toNat_lt.mp h
  rw [toNat_size] at hsize
  have hlt := Binary.abs_toReal_lt_of_exponent hx hk (by omega)
  have habs := abs_le.mp (hlt.le.trans hn)
  exact ⟨hx, habs.1, habs.2⟩

theorem size_lt_of_isFinite {x : Float32} (hx : (unpacked x).isFinite = true) :
    (x.toBits >>> 20) &&& 0x7ff < 0x7f8 := by
  have hexponent := Binary.exponent_lt_of_isFinite hx
  rw [UInt32.lt_iff_toNat_lt, toNat_size]
  change _ < 2040
  omega

theorem atMost_reduce {x : Float32} (hx : (unpacked x).isFinite = true) :
    AtMost 1 (reduce x).1.rest := by
  unfold reduce
  dsimp only
  split
  . next h =>
    have hnear : AtMost 128 x :=
      atMost_of_size_lt hx h (k := 134) (by decide) (by decide) (by norm_num)
    exact atMost_reduceNear (within_widen hnear (Double.bound_natCast (by decide)))
  . exact atMost_reduceFar _

end Trig

open Floating Trig

theorem atMost_sine {x : Float32} (hx : (unpacked x).isFinite = true) : AtMost 5 (sine x) := by
  unfold sine
  dsimp only
  split
  . next h =>
    have hsmall : AtMost 1 x :=
      atMost_of_size_lt hx h (k := 115) (by decide) (by decide) (by norm_num)
    exact hsmall.mono (by decide)
  . split
    . next h =>
      have hsmall : AtMost 1 x :=
        atMost_of_size_lt hx h (k := 127) (by decide) (by decide) (by norm_num)
      have hwide := within_widen hsmall (Double.bound_natCast (by decide))
      exact (atMost_sinePolynomial hwide (AtMost.mul hwide hwide (by decide))).mono (by decide)
    . rw [if_pos (size_lt_of_isFinite hx)]
      exact atMost_ofReduced (atMost_reduce hx) _ _

theorem atMost_cosine {x : Float32} (hx : (unpacked x).isFinite = true) : AtMost 5 (cosine x) := by
  unfold cosine
  dsimp only
  split
  . exact (AtMost.of_eq (Single.within_ofNat (n := 1) (by decide))).mono (by decide)
  . split
    . next h =>
      have hsmall : AtMost 1 x :=
        atMost_of_size_lt hx h (k := 127) (by decide) (by decide) (by norm_num)
      have hwide := within_widen hsmall (Double.bound_natCast (by decide))
      exact atMost_cosinePolynomial (AtMost.mul hwide hwide (by decide)) _
    . rw [if_pos (size_lt_of_isFinite hx)]
      exact atMost_ofReduced (atMost_reduce hx) _ _

end ReefRover
