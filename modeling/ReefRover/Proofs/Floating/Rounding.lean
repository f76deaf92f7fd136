import Mathlib

/-!
This module contains how floating-point numbers are rounded, for any format. What a number is
rounded to is at most half of a last place away. No number of the format lies strictly between the
two, so whatever number of the format bounds the exact result of an operation bounds the rounded
one, too.
-/

namespace ReefRover

namespace Floating

open Float.Model
open UnpackedFloat (Accuracy ExtendedMantissa Sign roundWithAccuracy shiftToTargetExponent)

/-- What makes two a numeral of real numbers, named here so that all definitions have it alike. -/
scoped instance atLeastTwo_two : Nat.AtLeastTwo 2 :=
  ⟨Nat.le_refl 2⟩

def signed : Sign → ℝ → ℝ
  | .positive, v => v
  | .negative, v => -v

/-- The number `± m * 2 ^ e`; what is no number counts as zero. -/
noncomputable def value : UnpackedFloat → ℝ
  | .finite sign m e _ => signed sign (m * 2 ^ e)
  | .zero _ | .infinity _ | .notANumber => 0

/-- Whether a mantissa and an exponent are the only ones of a format that stand for their number. -/
structure Canonical (format : Format) (m : Nat) (e : Int) : Prop where
  lt : m < 2 ^ format.mantissaBits
  min_le : format.minExponent ≤ e
  full : e = format.minExponent ∨ 2 ^ format.mantissaBitsWithoutImplicit ≤ m

/-- Whether a number is one of a format that has no largest number. -/
def InFormat (format : Format) : UnpackedFloat → Prop
  | .finite _ m e _ => Canonical format m e
  | .zero _ | .infinity _ | .notANumber => True

def Representable (format : Format) (b : ℝ) : Prop :=
  ∃ (n : Nat) (k : Int), n < 2 ^ format.mantissaBits ∧ format.minExponent ≤ k ∧ |b| = n * 2 ^ k

/-- No number of the format lies strictly between the two. -/
def Faithful (format : Format) (v w : ℝ) : Prop :=
  ∀ b, Representable format b → (v ≤ b → w ≤ b) ∧ (b ≤ v → b ≤ w)

/-- The two are at most half of a last place apart. -/
def Near (format : Format) (v w : ℝ) : Prop :=
  ∀ k : Int, format.minExponent ≤ k → |v| < 2 ^ (k + format.mantissaBits) → |w - v| ≤ 2 ^ k / 2

variable {format : Format} {m n : Nat} {e l : Int} {accuracy : Accuracy} {q v w : ℝ}

theorem pow_mantissaBits (format : Format) :
    2 ^ format.mantissaBits = 2 * 2 ^ format.mantissaBitsWithoutImplicit := by
  unfold Format.mantissaBits
  rw [Nat.pow_add]

theorem two_zpow_pos (e : Int) : (0 : ℝ) < 2 ^ e :=
  zpow_pos (by norm_num) e

theorem two_zpow_ne_zero (e : Int) : (2 : ℝ) ^ e ≠ 0 :=
  (two_zpow_pos e).ne'

theorem two_zpow_add (a b : Int) : (2 : ℝ) ^ (a + b) = 2 ^ a * 2 ^ b :=
  zpow_add₀ (by norm_num) a b

theorem two_zpow_le {a b : Int} (h : a ≤ b) : (2 : ℝ) ^ a ≤ 2 ^ b :=
  zpow_le_zpow_right₀ (by norm_num) h

theorem lt_of_two_zpow_lt {a b : Int} (h : (2 : ℝ) ^ a < 2 ^ b) : a < b :=
  (zpow_lt_zpow_iff_right₀ (by norm_num)).mp h

theorem mul_two_zpow_lt {s : Nat} (hn : n < 2 ^ s) (l : Int) : (n * 2 ^ l : ℝ) < 2 ^ (s + l) := by
  rw [two_zpow_add, zpow_natCast]
  apply mul_lt_mul_of_pos_right _ (two_zpow_pos l)
  exact_mod_cast hn

theorem mantissa_pos (hm : 0 < m) (e : Int) : (0 : ℝ) < m * 2 ^ e :=
  mul_pos (by exact_mod_cast hm) (two_zpow_pos e)

theorem abs_value_finite (sign : Sign) (hm : 0 < m) (e : Int) :
    |value (.finite sign m e hm)| = m * 2 ^ e := by
  have hpos := mantissa_pos hm e
  cases sign with
  | positive => exact abs_of_pos hpos
  | negative => exact (abs_neg _).trans (abs_of_pos hpos)

theorem Representable.neg {b : ℝ} (h : Representable format b) : Representable format (-b) := by
  unfold Representable
  rwa [abs_neg]

namespace Faithful

theorem neg (h : Faithful format v w) : Faithful format (-v) (-w) := by
  intro b hb
  obtain ⟨hle, hge⟩ := h (-b) hb.neg
  constructor
  . intro hv
    linarith [hge (by linarith)]
  . intro hv
    linarith [hle (by linarith)]

theorem refl (v : ℝ) : Faithful format v v :=
  fun _ _ => ⟨id, id⟩

theorem of_nonneg (hv : 0 ≤ v) (hw : 0 ≤ w)
    (h : ∀ (n : Nat) (k : Int), n < 2 ^ format.mantissaBits → format.minExponent ≤ k →
      (v ≤ n * 2 ^ k → w ≤ n * 2 ^ k) ∧ ((n * 2 ^ k : ℝ) ≤ v → n * 2 ^ k ≤ w)) :
    Faithful format v w := by
  rintro b ⟨n, k, hn, hk, hb⟩
  rcases le_or_gt 0 b with hpos | hneg
  . rw [abs_of_nonneg hpos] at hb
    rw [hb]
    exact h n k hn hk
  . constructor
    . intro hle
      linarith
    . intro _
      linarith

end Faithful

namespace Near

theorem neg (h : Near format v w) : Near format (-v) (-w) := by
  intro k hk hv
  rw [abs_neg] at hv
  rw [← neg_sub', abs_neg]
  exact h k hk hv

theorem refl (v : ℝ) : Near format v v := by
  intro k _ _
  rw [sub_self, abs_zero]
  exact (half_pos (two_zpow_pos k)).le

end Near

/-! ### Mantissas -/

def Approximates (m : Nat) : Accuracy → ℝ → Prop
  | .exact, q => q = m
  | .inexact .lt, q => m < q ∧ q < m + 1 / 2
  | .inexact .eq, q => q = m + 1 / 2
  | .inexact .gt, q => m + 1 / 2 < q ∧ q < m + 1

theorem approximates_self (m : Nat) : Approximates m .exact m :=
  rfl

namespace Approximates

theorem le (h : Approximates m accuracy q) : m ≤ q := by
  rcases accuracy with _ | order
  . exact h.ge
  . cases order with
    | lt => exact h.1.le
    | eq => linarith [show q = m + 1 / 2 from h]
    | gt => linarith [h.1]

theorem lt (h : Approximates m accuracy q) : q < m + 1 := by
  rcases accuracy with _ | order
  . linarith [show q = m from h]
  . cases order with
    | lt => linarith [h.2]
    | eq => linarith [show q = m + 1 / 2 from h]
    | gt => exact h.2

theorem shiftRightOne {em : ExtendedMantissa} (h : Approximates em.mantissa em.accuracy q) :
    Approximates em.shiftRightOne.mantissa em.shiftRightOne.accuracy (q / 2) := by
  obtain ⟨m, roundBit, stickyBit⟩ := em
  have hle := h.le
  have hlt := h.lt
  have hm : (m : ℝ) = 2 * (m / 2 : Nat) + (m % 2 : Nat) := by
    exact_mod_cast (Nat.div_add_mod m 2).symm
  unfold ExtendedMantissa.shiftRightOne
  rcases Nat.mod_two_eq_zero_or_one m with hmod | hmod <;> rw [hmod] at hm <;>
    cases roundBit <;> cases stickyBit <;>
    simp only [hmod, ExtendedMantissa.accuracy, Approximates] at h hm ⊢ <;> grind

theorem shiftRight {em : ExtendedMantissa} (h : Approximates em.mantissa em.accuracy q) (s : Nat) :
    Approximates (em >>> s).mantissa (em >>> s).accuracy (q / 2 ^ s) := by
  induction s with
  | zero =>
    rw [pow_zero, div_one]
    exact h
  | succ s ih =>
    rw [pow_succ, ← div_div]
    exact ih.shiftRightOne

theorem rounded (h : Approximates m accuracy q) :
    ((accuracy.roundToNearestEven m : ℝ) = m ∧ q ≤ m + 1 / 2) ∨
      ((accuracy.roundToNearestEven m : ℝ) = m + 1 ∧ (m : ℝ) + 1 / 2 ≤ q) := by
  rcases accuracy with _ | order
  . left
    exact ⟨rfl, by linarith [show q = m from h]⟩
  . cases order with
    | lt => exact .inl ⟨rfl, h.2.le⟩
    | eq =>
      have hq : q = m + 1 / 2 := h
      unfold Accuracy.roundToNearestEven
      dsimp only
      rcases Nat.mod_two_eq_zero_or_one m with hmod | hmod
      . left
        exact ⟨by rw [hmod, Nat.add_zero], hq.le⟩
      . right
        exact ⟨by rw [hmod, Nat.cast_succ], hq.ge⟩
    | gt => exact .inr ⟨Nat.cast_succ m, h.1.le⟩

theorem rounded_le (h : Approximates m accuracy q) (hle : q ≤ n) :
    accuracy.roundToNearestEven m ≤ n := by
  have hmn : m ≤ n := by exact_mod_cast h.le.trans hle
  rcases h.rounded with ⟨hround, -⟩ | ⟨hround, hhalf⟩
  . have hround : accuracy.roundToNearestEven m = m := by exact_mod_cast hround
    rwa [hround]
  . have hround : accuracy.roundToNearestEven m = m + 1 := by exact_mod_cast hround
    have hlt : (m : ℝ) < n := by linarith
    rw [hround]
    exact_mod_cast hlt

theorem le_rounded (h : Approximates m accuracy q) (hle : n ≤ q) :
    n ≤ accuracy.roundToNearestEven m := by
  have hnm : n < m + 1 := by exact_mod_cast hle.trans_lt h.lt
  rcases h.rounded with ⟨hround, -⟩ | ⟨hround, -⟩
  . have hround : accuracy.roundToNearestEven m = m := by exact_mod_cast hround
    omega
  . have hround : accuracy.roundToNearestEven m = m + 1 := by exact_mod_cast hround
    omega

theorem abs_rounded_sub_le (h : Approximates m accuracy q) :
    |accuracy.roundToNearestEven m - q| ≤ 1 / 2 := by
  have hle := h.le
  have hlt := h.lt
  rw [abs_le]
  rcases h.rounded with ⟨hround, hhalf⟩ | ⟨hround, hhalf⟩
  . rw [hround]
    constructor <;> linarith
  . rw [hround]
    constructor <;> linarith

end Approximates

theorem accuracy_ofMantissaAndAccuracy (m : Nat) (accuracy : Accuracy) :
    let em := ExtendedMantissa.ofMantissaAndAccuracy m accuracy
    em.mantissa = m ∧ em.accuracy = accuracy := by
  rcases accuracy with _ | order
  . exact ⟨rfl, rfl⟩
  . cases order <;> exact ⟨rfl, rfl⟩

/-! ### The last place -/

def target (format : Format) (m : Nat) (e : Int) : Int :=
  format.targetExponent (totalExponent m e)

theorem target_eq (format : Format) (m : Nat) (e : Int) :
    target format m e =
      max (m.log2 + e - format.mantissaBitsWithoutImplicit) format.minExponent := by
  unfold target Format.targetExponent totalExponent Format.mantissaBits
  congr 1
  omega

theorem minExponent_le_target (format : Format) (m : Nat) (e : Int) :
    format.minExponent ≤ target format m e := by
  rw [target_eq]
  exact le_max_right _ _

theorem log2_of_target (h : e ≤ target format m e) (hmin : target format m e ≠ format.minExponent) :
    m ≠ 0 ∧ target format m e + format.mantissaBitsWithoutImplicit = m.log2 + e := by
  have hbits := format.hm
  rw [target_eq] at *
  refine ⟨?_, by omega⟩
  rintro rfl
  rw [Nat.log2_zero] at h hmin
  omega

theorem shiftToTargetExponent_snd (h : e ≤ target format m e) :
    (shiftToTargetExponent format m e accuracy).2 = target format m e := by
  change e + ((target format m e - e).toNat : Int) = _
  omega

theorem approximates_shiftToTargetExponent (h : Approximates m accuracy q) (format : Format)
    (e : Int) :
    let em := (shiftToTargetExponent format m e accuracy).1
    Approximates em.mantissa em.accuracy (q / 2 ^ (target format m e - e).toNat) := by
  obtain ⟨hmantissa, haccuracy⟩ := accuracy_ofMantissaAndAccuracy m accuracy
  apply Approximates.shiftRight
  rwa [hmantissa, haccuracy]

/-- The mantissa that a number has once it is cut to the precision of its format. -/
def cut (format : Format) (m : Nat) (e : Int) (accuracy : Accuracy) : Nat :=
  (shiftToTargetExponent format m e accuracy).1.roundedMantissa

theorem exists_approximates_cut (h : Approximates m accuracy q) (he : e ≤ target format m e) :
    ∃ p : ℝ, q * 2 ^ e = p * 2 ^ target format m e ∧
      (∀ n : Nat, p ≤ n → cut format m e accuracy ≤ n) ∧
      (∀ n : Nat, n ≤ p → n ≤ cut format m e accuracy) ∧
      |cut format m e accuracy - p| ≤ 1 / 2 := by
  have happroximates := approximates_shiftToTargetExponent h format e
  refine ⟨_, ?_, fun n => happroximates.rounded_le, fun n => happroximates.le_rounded,
    happroximates.abs_rounded_sub_le⟩
  have hshift : target format m e = e + (target format m e - e).toNat := by omega
  conv_rhs => rw [hshift, two_zpow_add, zpow_natCast]
  have hpow : (2 : ℝ) ^ (target format m e - e).toNat ≠ 0 := by positivity
  have hcancel : (e + ((target format m e - e).toNat : Int) - e).toNat =
      (target format m e - e).toNat := by omega
  rw [hcancel]
  field_simp

theorem two_zpow_log2_le (h : Approximates m accuracy q) (hm : m ≠ 0) (e : Int) :
    (2 : ℝ) ^ (m.log2 + e) ≤ q * 2 ^ e := by
  rw [two_zpow_add, zpow_natCast]
  apply mul_le_mul_of_nonneg_right _ (two_zpow_pos e).le
  refine le_trans ?_ h.le
  exact_mod_cast Nat.log2_self_le hm

theorem lt_two_zpow_log2 (h : Approximates m accuracy q) (e : Int) :
    q * 2 ^ e < (2 : ℝ) ^ (m.log2 + 1 + e) := by
  have hm : ((m + 1 : Nat) : ℝ) ≤ (2 ^ (m.log2 + 1) : Nat) := by
    exact_mod_cast Nat.lt_log2_self
  have hq : q < 2 ^ (m.log2 + 1) := by
    push_cast at hm
    exact h.lt.trans_le hm
  rw [two_zpow_add]
  exact mul_lt_mul_of_pos_right (by exact_mod_cast hq) (two_zpow_pos e)

theorem cut_le_pow (h : Approximates m accuracy q) (he : e ≤ target format m e) :
    cut format m e accuracy ≤ 2 ^ format.mantissaBits := by
  obtain ⟨p, hp, hle, -, -⟩ := exists_approximates_cut h he
  apply hle
  have hlt := lt_two_zpow_log2 h e
  rw [hp] at hlt
  have hexponent : (m.log2 + 1 + e : Int) ≤ format.mantissaBits + target format m e := by
    rw [target_eq]
    unfold Format.mantissaBits
    omega
  have hlt := hlt.trans_le (two_zpow_le hexponent)
  rw [two_zpow_add, zpow_natCast] at hlt
  push_cast
  exact (lt_of_mul_lt_mul_right hlt (two_zpow_pos _).le).le

theorem full_cut (h : Approximates m accuracy q) (he : e ≤ target format m e) :
    target format m e = format.minExponent ∨
      2 ^ format.mantissaBitsWithoutImplicit ≤ cut format m e accuracy := by
  by_cases hmin : target format m e = format.minExponent
  . exact .inl hmin
  . right
    obtain ⟨hm, hlog⟩ := log2_of_target he hmin
    obtain ⟨p, hp, -, hge, -⟩ := exists_approximates_cut h he
    apply hge
    have hle := two_zpow_log2_le h hm e
    rw [hp, ← hlog, add_comm, two_zpow_add, zpow_natCast] at hle
    push_cast
    exact le_of_mul_le_mul_right hle (two_zpow_pos _)

/-! ### Rounding -/

theorem le_target_or_lt (h : e ≤ target format m e) (hn : n < 2 ^ format.mantissaBits)
    (hl : format.minExponent ≤ l) :
    target format m e ≤ l ∨
      m ≠ 0 ∧ target format m e + format.mantissaBitsWithoutImplicit = m.log2 + e ∧
        (n * 2 ^ l : ℝ) < 2 ^ (m.log2 + e) := by
  rcases le_or_gt (target format m e) l with hle | hlt
  . exact .inl hle
  . right
    obtain ⟨hm, hlog⟩ := log2_of_target h (by omega)
    refine ⟨hm, hlog, (mul_two_zpow_lt hn l).trans_le (two_zpow_le ?_)⟩
    unfold Format.mantissaBits
    omega

theorem mul_two_zpow {t : Int} (h : t ≤ l) :
    (n * 2 ^ l : ℝ) = (n * 2 ^ (l - t).toNat : Nat) * 2 ^ t := by
  have hl : l = t + (l - t).toNat := by omega
  conv_lhs => rw [hl, two_zpow_add, zpow_natCast]
  push_cast
  ring

theorem faithful_cut (h : Approximates m accuracy q) (he : e ≤ target format m e) :
    Faithful format (q * 2 ^ e) (cut format m e accuracy * 2 ^ target format m e) := by
  have hq : (0 : ℝ) ≤ q := (Nat.cast_nonneg m).trans h.le
  obtain ⟨p, hp, hle, hge, -⟩ := exists_approximates_cut h he
  have hpos := two_zpow_pos (target format m e)
  apply Faithful.of_nonneg
  . exact mul_nonneg hq (two_zpow_pos e).le
  . exact mul_nonneg (Nat.cast_nonneg _) hpos.le
  intro n l hn hl
  rcases le_target_or_lt he hn hl with htarget | ⟨hm, hlog, hsmall⟩
  . rw [hp, mul_two_zpow htarget]
    constructor
    . intro hv
      have hcut := hle _ (le_of_mul_le_mul_right hv hpos)
      exact mul_le_mul_of_nonneg_right (by exact_mod_cast hcut) hpos.le
    . intro hv
      have hcut := hge _ (le_of_mul_le_mul_right hv hpos)
      exact mul_le_mul_of_nonneg_right (by exact_mod_cast hcut) hpos.le
  . have hleading := two_zpow_log2_le h hm e
    constructor
    . intro hv
      linarith
    . -- the leading bit of `m` is not cut off
      intro _
      have hfull : (2 : ℝ) ^ (m.log2 + e) ≤ cut format m e accuracy * 2 ^ target format m e := by
        rw [hp] at hleading
        rw [← hlog, add_comm, two_zpow_add, zpow_natCast] at hleading ⊢
        apply mul_le_mul_of_nonneg_right _ hpos.le
        have hcut := hge (2 ^ format.mantissaBitsWithoutImplicit) (by
          push_cast
          exact le_of_mul_le_mul_right hleading hpos)
        exact_mod_cast hcut
      linarith

theorem near_cut (h : Approximates m accuracy q) (he : e ≤ target format m e) :
    Near format (q * 2 ^ e) (cut format m e accuracy * 2 ^ target format m e) := by
  intro k hk hv
  obtain ⟨p, hp, -, -, hhalf⟩ := exists_approximates_cut h he
  have htarget : target format m e ≤ k := by
    by_cases hmin : target format m e = format.minExponent
    . rw [hmin]
      exact hk
    . obtain ⟨hm, hlog⟩ := log2_of_target he hmin
      have hlt := (two_zpow_log2_le h hm e).trans_lt ((le_abs_self _).trans_lt hv)
      have hexponent := lt_of_two_zpow_lt hlt
      unfold Format.mantissaBits at hexponent
      omega
  have hpos := two_zpow_pos (target format m e)
  rw [hp, ← sub_mul, abs_mul, abs_of_pos hpos]
  calc |cut format m e accuracy - p| * 2 ^ target format m e
      ≤ 1 / 2 * 2 ^ target format m e := mul_le_mul_of_nonneg_right hhalf hpos.le
    _ ≤ 2 ^ k / 2 := by linarith [two_zpow_le htarget]

def ofParts (sign : Sign) (f : Nat) (k : Int) : UnpackedFloat :=
  if h : f = 0 then .zero sign else .finite sign f k (Nat.pos_of_ne_zero h)

theorem value_ofParts (sign : Sign) (f : Nat) (k : Int) :
    value (ofParts sign f k) = signed sign (f * 2 ^ k) := by
  unfold ofParts
  split
  . next hzero =>
    rw [hzero, Nat.cast_zero, zero_mul]
    cases sign with
    | positive => rfl
    | negative => exact neg_zero.symm
  . rfl

theorem isFinite_ofParts (sign : Sign) (f : Nat) (k : Int) :
    (ofParts sign f k).isFinite = true := by
  unfold ofParts
  split
  . rfl
  . rfl

theorem inFormat_ofParts {f : Nat} {k : Int} (h : Canonical format f k) (sign : Sign) :
    InFormat format (ofParts sign f k) := by
  unfold ofParts
  split
  . trivial
  . exact h

theorem roundWithAccuracy_eq (format : Format) (sign : Sign) (m : Nat) (e : Int)
    (accuracy : Accuracy) :
    let second := shiftToTargetExponent format (cut format m e accuracy)
      (shiftToTargetExponent format m e accuracy).2 .exact
    roundWithAccuracy format sign m e accuracy = ofParts sign second.1.mantissa second.2 :=
  rfl

theorem shiftToTargetExponent_of_lt (hm : m < 2 ^ format.mantissaBits)
    (he : format.minExponent ≤ e) :
    (shiftToTargetExponent format m e .exact).1.mantissa = m ∧
      (shiftToTargetExponent format m e .exact).2 = e := by
  have htarget : target format m e ≤ e := by
    rw [target_eq]
    have hlog : m.log2 < format.mantissaBits ∨ m = 0 := by
      by_cases hzero : m = 0
      . exact .inr hzero
      . exact .inl ((Nat.log2_lt hzero).mpr hm)
    unfold Format.mantissaBits at hlog
    have hzero : m = 0 → m.log2 = 0 := by
      rintro rfl
      exact Nat.log2_zero
    omega
  have hshift : (target format m e - e).toNat = 0 := by omega
  unfold target at hshift
  unfold UnpackedFloat.shiftToTargetExponent UnpackedFloat.shiftToExponent
  dsimp only
  rw [hshift]
  exact ⟨rfl, Int.add_zero e⟩

theorem shiftToTargetExponent_carry (he : format.minExponent ≤ e) :
    (shiftToTargetExponent format (2 ^ format.mantissaBits) e .exact).1.mantissa =
        2 ^ format.mantissaBitsWithoutImplicit ∧
      (shiftToTargetExponent format (2 ^ format.mantissaBits) e .exact).2 = e + 1 := by
  have htarget : target format (2 ^ format.mantissaBits) e = e + 1 := by
    rw [target_eq, Nat.log2_two_pow]
    unfold Format.mantissaBits
    omega
  have hshift : (target format (2 ^ format.mantissaBits) e - e).toNat = 1 := by omega
  unfold target at hshift
  unfold UnpackedFloat.shiftToTargetExponent UnpackedFloat.shiftToExponent
  dsimp only
  rw [hshift]
  refine ⟨?_, rfl⟩
  change 2 ^ format.mantissaBits / 2 = _
  rw [pow_mantissaBits]
  omega

/-- Rounding may carry to one more bit than a mantissa has, which takes the next exponent. -/
theorem exists_ofParts (h : Approximates m accuracy q) (he : e ≤ target format m e) :
    ∃ f k, Canonical format f k ∧
      (f * 2 ^ k : ℝ) = cut format m e accuracy * 2 ^ target format m e ∧
      ∀ sign, roundWithAccuracy format sign m e accuracy = ofParts sign f k := by
  have hmin := minExponent_le_target format m e
  have hround := fun sign => roundWithAccuracy_eq format sign m e accuracy
  rw [shiftToTargetExponent_snd he] at hround
  rcases (cut_le_pow h he).lt_or_eq with hlt | heq
  . obtain ⟨hmantissa, hexponent⟩ := shiftToTargetExponent_of_lt hlt hmin
    refine ⟨cut format m e accuracy, target format m e, ⟨hlt, hmin, full_cut h he⟩, rfl, ?_⟩
    intro sign
    rw [hround, hmantissa, hexponent]
  . rw [heq] at hround ⊢
    obtain ⟨hmantissa, hexponent⟩ := shiftToTargetExponent_carry hmin
    refine ⟨2 ^ format.mantissaBitsWithoutImplicit, target format m e + 1,
      ⟨?_, by omega, .inr le_rfl⟩, ?_, ?_⟩
    . rw [pow_mantissaBits]
      have hpos := Nat.two_pow_pos format.mantissaBitsWithoutImplicit
      omega
    . rw [pow_mantissaBits, two_zpow_add, zpow_one]
      push_cast
      ring
    . intro sign
      rw [hround, hmantissa, hexponent]

/-- An operation with the exact result `v` gives a finite number of the format. -/
structure Rounds (format : Format) (v : ℝ) (u : UnpackedFloat) : Prop where
  isFinite : u.isFinite = true
  inFormat : InFormat format u
  faithful : Faithful format v (value u)
  near : Near format v (value u)

theorem rounds_roundWithAccuracy (sign : Sign) (h : Approximates m accuracy q)
    (he : e ≤ target format m e) :
    Rounds format (signed sign (q * 2 ^ e)) (roundWithAccuracy format sign m e accuracy) := by
  obtain ⟨f, k, hcanonical, hvalue, hround⟩ := exists_ofParts h he
  have hfaithful := faithful_cut h he
  have hnear := near_cut h he
  rw [← hvalue] at hfaithful hnear
  rw [hround]
  refine ⟨isFinite_ofParts sign f k, inFormat_ofParts hcanonical sign, ?_, ?_⟩
  . rw [value_ofParts]
    cases sign with
    | positive => exact hfaithful
    | negative => exact hfaithful.neg
  . rw [value_ofParts]
    cases sign with
    | positive => exact hnear
    | negative => exact hnear.neg

end Floating

end ReefRover
