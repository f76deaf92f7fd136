import ReefRover.Proofs.Floating.Packing

/-!
This module contains the operations on floating-point numbers, for any format. On finite numbers
each of them rounds its exact result, and what it gives is packed as it is unless that result is too
large for the format.
-/

namespace ReefRover

namespace Floating

open Float.Model
open UnpackedFloat (Accuracy ExtendedMantissa Sign accuracyOfFraction decreaseExponent divCore
  normalize pack round sqrtCore unpack)

variable {format : Format} {u v : UnpackedFloat} {m n : Nat} {e : Int}

/-! ### Signs -/

theorem cast_apply (sign : Sign) (m : Nat) : ((sign.apply m : Int) : ℝ) = signed sign m := by
  cases sign with
  | positive => exact Int.cast_natCast m
  | negative =>
    change ((-(m : Int) : Int) : ℝ) = -m
    push_cast
    rfl

theorem signed_mul (sign : Sign) (x y : ℝ) : signed sign (x * y) = signed sign x * y := by
  cases sign with
  | positive => rfl
  | negative => exact neg_mul_eq_neg_mul x y

theorem signed_mul_signed (s t : Sign) (x y : ℝ) :
    signed s x * signed t y = signed (s * t) (x * y) := by
  cases s <;> cases t
  . exact neg_mul_neg x y
  . exact neg_mul x y
  . exact mul_neg x y
  . rfl

theorem signed_div_signed (s t : Sign) (x y : ℝ) :
    signed s x / signed t y = signed (s / t) (x / y) := by
  cases s <;> cases t
  . exact neg_div_neg_eq x y
  . exact neg_div y x
  . exact div_neg x
  . rfl

theorem rounds_self (hu : u.isFinite = true) (hformat : InFormat format u) :
    Rounds format (value u) u :=
  ⟨hu, hformat, .refl _, .refl _⟩

theorem rounds_zero (sign : Sign) : Rounds format 0 (.zero sign) :=
  rounds_self (u := .zero sign) rfl trivial

theorem value_neg (u : UnpackedFloat) : value u.neg = -value u := by
  cases u with
  | notANumber | infinity | zero => exact neg_zero.symm
  | finite sign m e hm =>
    cases sign with
    | positive => rfl
    | negative => exact (neg_neg _).symm

theorem isFinite_neg (u : UnpackedFloat) : u.neg.isFinite = u.isFinite := by
  cases u with
  | notANumber | infinity | zero | finite => rfl

theorem inFormat_neg (h : InFormat format u) : InFormat format u.neg := by
  cases u with
  | notANumber | infinity | zero => trivial
  | finite => exact h

/-! ### Sums -/

theorem decreaseExponent_snd_le (m : Nat) (e t : Int) : (decreaseExponent m e t).2 ≤ t := by
  unfold UnpackedFloat.decreaseExponent
  dsimp only
  omega

theorem value_decreaseExponent (m : Nat) (e t : Int) :
    ((decreaseExponent m e t).1 * 2 ^ (decreaseExponent m e t).2 : ℝ) = m * 2 ^ e := by
  have hle : e - (e - t).toNat ≤ e := by omega
  have hshift : (e - (e - (e - t).toNat)).toNat = (e - t).toNat := by omega
  unfold UnpackedFloat.decreaseExponent
  dsimp only
  rw [Nat.shiftLeft_eq, mul_two_zpow hle, hshift]

theorem log2_shiftLeft (hm : m ≠ 0) (s : Nat) : (m <<< s).log2 = m.log2 + s := by
  have hpos := Nat.two_pow_pos s
  rw [Nat.shiftLeft_eq, Nat.log2_eq_iff (Nat.mul_ne_zero hm hpos.ne')]
  constructor
  . rw [Nat.pow_add]
    exact Nat.mul_le_mul_right _ (Nat.log2_self_le hm)
  . rw [Nat.add_right_comm, Nat.pow_add]
    exact Nat.mul_lt_mul_of_pos_right Nat.lt_log2_self hpos

theorem totalExponent_decreaseExponent (hm : m ≠ 0) (e t : Int) :
    totalExponent (decreaseExponent m e t).1 (decreaseExponent m e t).2 = totalExponent m e := by
  unfold UnpackedFloat.decreaseExponent totalExponent
  dsimp only
  rw [log2_shiftLeft hm]
  push_cast
  ring

theorem rounds_round (sign : Sign) (hm : m ≠ 0) (e : Int) :
    Rounds format (signed sign (m * 2 ^ e)) (round format sign m e) := by
  have htarget : (decreaseExponent m e (target format m e)).2 ≤
      target format (decreaseExponent m e (target format m e)).1
        (decreaseExponent m e (target format m e)).2 := by
    conv_rhs => rw [target, totalExponent_decreaseExponent hm]
    exact decreaseExponent_snd_le m e _
  rw [← value_decreaseExponent m e (target format m e)]
  exact rounds_roundWithAccuracy sign (approximates_self _) htarget

theorem rounds_normalize (format : Format) (k : Int) (e : Int) (sign : Sign) :
    Rounds format (k * 2 ^ e) (normalize format k e sign) := by
  unfold UnpackedFloat.normalize
  split
  . next hlt =>
    rw [Int.compare_eq_lt] at hlt
    have hk : (k : ℝ) = -((-k).toNat : ℝ) := by
      have hk : k = -((-k).toNat : Int) := by omega
      exact_mod_cast congrArg (Int.cast (R := ℝ)) hk
    rw [hk, neg_mul]
    exact rounds_round .negative (by omega) e
  . next heq =>
    rw [Int.compare_eq_eq] at heq
    rw [heq, Int.cast_zero, zero_mul]
    exact rounds_zero sign
  . next hgt =>
    rw [Int.compare_eq_gt] at hgt
    have hk : (k : ℝ) = (k.toNat : ℝ) := by
      have hk : k = (k.toNat : Int) := by omega
      exact_mod_cast congrArg (Int.cast (R := ℝ)) hk
    rw [hk]
    exact rounds_round .positive (by omega) e

theorem value_aligned (sign : Sign) (hm : 0 < m) {t : Int} (h : t ≤ e) :
    value (.finite sign m e hm) = (sign.apply (decreaseExponent m e t).1 : Int) * 2 ^ t := by
  have hexponent : (decreaseExponent m e t).2 = t := by
    unfold UnpackedFloat.decreaseExponent
    dsimp only
    omega
  have hvalue := value_decreaseExponent m e t
  rw [hexponent] at hvalue
  rw [cast_apply, ← signed_mul, hvalue]
  rfl

theorem rounds_add (hu : u.isFinite = true) (hv : v.isFinite = true) (hformat : InFormat format u)
    (hformat' : InFormat format v) :
    Rounds format (value u + value v) (UnpackedFloat.add format u v) := by
  cases u with
  | notANumber | infinity => cases hu
  | zero sign =>
    have hzero : value (.zero sign) + value v = value v := zero_add _
    rw [hzero]
    cases v with
    | notANumber | infinity => cases hv
    | zero sign' =>
      unfold UnpackedFloat.add
      dsimp only
      split
      . exact rounds_zero _
      . exact rounds_zero _
    | finite => exact rounds_self hv hformat'
  | finite sign m e hm =>
    cases v with
    | notANumber | infinity => cases hv
    | zero sign' =>
      have hzero : value (.finite sign m e hm) + value (.zero sign') =
          value (.finite sign m e hm) :=
        add_zero _
      rw [hzero]
      exact rounds_self hu hformat
    | finite sign' m' e' hm' =>
      rw [value_aligned sign hm (min_le_left e e'), value_aligned sign' hm' (min_le_right e e'),
        ← add_mul, ← Int.cast_add]
      exact rounds_normalize format _ _ _

theorem sub_eq_add_negated (u v : UnpackedFloat) :
    UnpackedFloat.sub format u v = UnpackedFloat.add format u v.neg := by
  cases v with
  | notANumber | infinity | zero => cases u <;> rfl
  | finite sign' m' e' hm' =>
    cases u with
    | notANumber | infinity | zero => rfl
    | finite sign m e hm =>
      have happly : ∀ n : Nat, (-sign').apply n = -sign'.apply n := by
        intro n
        cases sign' with
        | positive => rfl
        | negative => exact (Int.neg_neg _).symm
      unfold UnpackedFloat.sub UnpackedFloat.add UnpackedFloat.neg
      dsimp only
      rw [happly, Int.sub_eq_add_neg]

theorem rounds_sub (hu : u.isFinite = true) (hv : v.isFinite = true) (hformat : InFormat format u)
    (hformat' : InFormat format v) :
    Rounds format (value u - value v) (UnpackedFloat.sub format u v) := by
  rw [sub_eq_add_negated, sub_eq_add_neg, ← value_neg]
  exact rounds_add hu ((isFinite_neg v).trans hv) hformat (inFormat_neg hformat')

/-! ### Products -/

theorem minExponent_nonpos (format : Format) : format.minExponent ≤ 0 := by
  rw [minExponent_eq]
  have hbits := format.hm
  omega

theorem le_target_mul {m' : Nat} {e' : Int} (hm : 0 < m) (hm' : 0 < m')
    (h : Canonical format m e) (h' : Canonical format m' e') :
    e + e' ≤ target format (m * m') (e + e') := by
  have hmin := minExponent_nonpos format
  have hlog : ∀ k, 2 ^ k ≤ m * m' → k ≤ (m * m').log2 := fun k hk =>
    (Nat.le_log2 (Nat.mul_pos hm hm').ne').mpr hk
  rw [target_eq]
  rcases h.full with he | hfull
  . rcases h'.full with he' | hfull'
    . omega
    . have hlog := hlog _ (hfull'.trans (Nat.le_mul_of_pos_left m' hm))
      omega
  . have hlog := hlog _ (hfull.trans (Nat.le_mul_of_pos_right m hm'))
    omega

theorem rounds_mul (hu : u.isFinite = true) (hv : v.isFinite = true) (hformat : InFormat format u)
    (hformat' : InFormat format v) :
    Rounds format (value u * value v) (UnpackedFloat.mul format u v) := by
  cases u with
  | notANumber | infinity => cases hu
  | zero sign =>
    have hzero : value (.zero sign) * value v = 0 := zero_mul _
    rw [hzero]
    cases v with
    | notANumber | infinity => cases hv
    | zero | finite => exact rounds_zero _
  | finite sign m e hm =>
    cases v with
    | notANumber | infinity => cases hv
    | zero sign' =>
      have hzero : value (.finite sign m e hm) * value (.zero sign') = 0 := mul_zero _
      rw [hzero]
      exact rounds_zero _
    | finite sign' m' e' hm' =>
      have hvalue : value (.finite sign m e hm) * value (.finite sign' m' e' hm') =
          signed (sign * sign') ((m * m' : Nat) * 2 ^ (e + e')) := by
        have hproduct : (m * 2 ^ e * (m' * 2 ^ e') : ℝ) = (m * m' : Nat) * 2 ^ (e + e') := by
          rw [zpow_add₀ (by norm_num)]
          push_cast
          ring
        rw [← hproduct]
        exact signed_mul_signed ..
      rw [hvalue]
      exact rounds_roundWithAccuracy _ (approximates_self _)
        (le_target_mul hm hm' hformat hformat')

/-! ### Quotients -/

theorem approximates_div (x : Nat) {y : Nat} (hy : 0 < y) :
    Approximates (x / y) (accuracyOfFraction (x % y) y) (x / y) := by
  have hpos : (0 : ℝ) < y := by exact_mod_cast hy
  have hdiv : (x : ℝ) = y * (x / y : Nat) + (x % y : Nat) := by
    exact_mod_cast (Nat.div_add_mod x y).symm
  have hquotient : (x / y : ℝ) = (x / y : Nat) + (x % y : Nat) / y := by
    rw [hdiv]
    field_simp
  have hlt : ((x % y : Nat) : ℝ) / y < 1 := by
    rw [div_lt_one hpos]
    exact_mod_cast Nat.mod_lt x hy
  unfold UnpackedFloat.accuracyOfFraction
  rw [hquotient]
  split
  . next hzero =>
    change _ = _
    rw [hzero, Nat.cast_zero, zero_div, add_zero]
  . next hzero =>
    have hrest : (0 : ℝ) < (x % y : Nat) / y := by
      apply div_pos _ hpos
      exact_mod_cast Nat.pos_of_ne_zero hzero
    rcases lt_trichotomy (2 * (x % y)) y with hhalf | hhalf | hhalf
    . have hfraction : ((x % y : Nat) : ℝ) / y < 1 / 2 := by
        rw [div_lt_div_iff₀ hpos two_pos]
        exact_mod_cast by omega
      rw [compare_lt_iff_lt.mpr hhalf]
      exact ⟨by linarith, by linarith⟩
    . have hfraction : ((x % y : Nat) : ℝ) / y = 1 / 2 := by
        rw [div_eq_div_iff hpos.ne' two_ne_zero]
        exact_mod_cast by omega
      rw [compare_eq_iff_eq.mpr hhalf]
      change _ = _
      rw [hfraction]
    . have hfraction : 1 / 2 < ((x % y : Nat) : ℝ) / y := by
        rw [div_lt_div_iff₀ two_pos hpos]
        exact_mod_cast by omega
      rw [compare_gt_iff_gt.mpr hhalf]
      exact ⟨by linarith, by linarith⟩

theorem log2_le_log2_div {x y : Nat} (hx : x ≠ 0) (hy : 0 < y) :
    x.log2 ≤ (x / y).log2 + y.log2 + 1 := by
  have hlt : x < 2 ^ ((x / y).log2 + y.log2 + 1 + 1) := by
    calc x < y * (x / y + 1) := Nat.lt_mul_div_succ x hy
      _ ≤ 2 ^ (y.log2 + 1) * 2 ^ ((x / y).log2 + 1) :=
        Nat.mul_le_mul Nat.lt_log2_self.le Nat.lt_log2_self
      _ = 2 ^ ((x / y).log2 + y.log2 + 1 + 1) := by
        rw [← Nat.pow_add]
        congr 1
        omega
  exact Nat.le_of_lt_succ ((Nat.log2_lt hx).mpr hlt)

theorem rounds_divCore (sign : Sign) {m' : Nat} {e' : Int} (hm : 0 < m) (hm' : 0 < m') :
    let core := divCore format m e m' e'
    Rounds format (signed sign (m * 2 ^ e / (m' * 2 ^ e')))
      (UnpackedFloat.roundWithAccuracy format sign core.1 core.2.1 core.2.2) := by
  unfold UnpackedFloat.divCore
  dsimp only
  generalize hdepth :
    min (e - e') (format.targetExponent (totalExponent m e - totalExponent m' e')) =
    depth
  generalize hshift : (e - e' - depth).toNat = shift
  have hpos : m <<< shift ≠ 0 := (Nat.shiftLeft_pos_iff.mpr hm).ne'
  have hvalue : (m * 2 ^ e / (m' * 2 ^ e') : ℝ) = (m <<< shift : Nat) / m' * 2 ^ depth := by
    have he : e = shift + depth + e' := by omega
    have hne : (m' : ℝ) ≠ 0 := by exact_mod_cast hm'.ne'
    have hne' := two_zpow_ne_zero e'
    rw [he, zpow_add₀ (by norm_num), zpow_add₀ (by norm_num), zpow_natCast, Nat.shiftLeft_eq]
    push_cast
    field_simp
  have htarget : depth ≤ target format ((m <<< shift) / m') depth := by
    have hlog := log2_le_log2_div hpos hm'
    rw [log2_shiftLeft hm.ne'] at hlog
    unfold Format.targetExponent totalExponent Format.mantissaBits at hdepth
    rw [target_eq]
    omega
  rw [hvalue]
  exact rounds_roundWithAccuracy sign (approximates_div _ hm') htarget

theorem rounds_div (hu : u.isFinite = true) (hv : v.isFinite = true) (hzero : value v ≠ 0) :
    Rounds format (value u / value v) (UnpackedFloat.div format u v) := by
  cases v with
  | notANumber | infinity => cases hv
  | zero sign' => exact absurd rfl hzero
  | finite sign' m' e' hm' =>
    cases u with
    | notANumber | infinity => cases hu
    | zero sign =>
      have hquotient : value (.zero sign) / value (.finite sign' m' e' hm') = 0 := zero_div _
      rw [hquotient]
      exact rounds_zero _
    | finite sign m e hm =>
      have hquotient : value (.finite sign m e hm) / value (.finite sign' m' e' hm') =
          signed (sign / sign') (m * 2 ^ e / (m' * 2 ^ e')) := signed_div_signed ..
      rw [hquotient]
      exact rounds_divCore _ hm hm'

/-! ### Square roots -/

theorem log2_le_log2_sqrt {x : Nat} (hx : x ≠ 0) : x.log2 ≤ 2 * x.sqrt.log2 + 1 := by
  have hlt : x < 2 ^ (2 * x.sqrt.log2 + 1 + 1) := by
    calc x < (x.sqrt + 1) * (x.sqrt + 1) := Nat.lt_succ_sqrt x
      _ ≤ 2 ^ (x.sqrt.log2 + 1) * 2 ^ (x.sqrt.log2 + 1) :=
        Nat.mul_le_mul Nat.lt_log2_self Nat.lt_log2_self
      _ = 2 ^ (2 * x.sqrt.log2 + 1 + 1) := by
        rw [← Nat.pow_add]
        congr 1
        omega
  exact Nat.le_of_lt_succ ((Nat.log2_lt hx).mpr hlt)

theorem approximates_sqrt (x : Nat) :
    let rest := x - x.sqrt * x.sqrt
    Approximates x.sqrt
      (if rest = 0 then .exact else .inexact (if rest ≤ x.sqrt then .lt else .gt)) (√x) := by
  intro rest
  have hle := Nat.sqrt_le x
  have hlt := Nat.lt_succ_sqrt x
  have hroot : (0 : ℝ) ≤ x.sqrt := Nat.cast_nonneg _
  have hx : (x : ℝ) = x.sqrt * x.sqrt + rest := by
    have hx : x = x.sqrt * x.sqrt + rest := by omega
    exact_mod_cast hx
  split
  . next hzero =>
    change √(x : ℝ) = x.sqrt
    rw [hx, hzero, Nat.cast_zero, add_zero, Real.sqrt_mul_self hroot]
  . next hzero =>
    have hpos : (1 : ℝ) ≤ rest := by exact_mod_cast Nat.pos_of_ne_zero hzero
    split
    . next hhalf =>
      have hhalf : (rest : ℝ) ≤ x.sqrt := by exact_mod_cast hhalf
      constructor
      . rw [Real.lt_sqrt hroot]
        nlinarith
      . rw [Real.sqrt_lt' (by positivity)]
        nlinarith
    . next hhalf =>
      have hhalf : (x.sqrt : ℝ) + 1 ≤ rest := by exact_mod_cast Nat.lt_of_not_le hhalf
      constructor
      . rw [Real.lt_sqrt (by positivity)]
        nlinarith
      . rw [Real.sqrt_lt' (by positivity), sq]
        exact_mod_cast hlt

theorem rounds_sqrtCore (hm : 0 < m) (e : Int) :
    let core := sqrtCore format m e
    Rounds format (√(m * 2 ^ e))
      (UnpackedFloat.roundWithAccuracy format .positive core.1 core.2.1 core.2.2) := by
  unfold UnpackedFloat.sqrtCore
  dsimp only
  generalize hdepth :
    min (e.ediv 2) (format.targetExponent ((totalExponent m e + 1).ediv 2)) = depth
  generalize hshift : (e - 2 * depth).toNat = shift
  have hpos : m <<< shift ≠ 0 := (Nat.shiftLeft_pos_iff.mpr hm).ne'
  have hdiv : ∀ k : Int, k.ediv 2 = k / 2 := fun _ => rfl
  rw [hdiv, hdiv] at hdepth
  have hvalue : √(m * 2 ^ e : ℝ) = √(m <<< shift : Nat) * 2 ^ depth := by
    have he : e = shift + (depth + depth) := by omega
    have hdepth := (two_zpow_pos depth).le
    rw [he, zpow_add₀ (by norm_num), zpow_add₀ (by norm_num), zpow_natCast, ← mul_assoc,
      Real.sqrt_mul (by positivity), Real.sqrt_mul_self hdepth, Nat.shiftLeft_eq]
    push_cast
    rfl
  have htarget : depth ≤ target format (m <<< shift).sqrt depth := by
    have hlog := log2_le_log2_sqrt hpos
    rw [log2_shiftLeft hm.ne'] at hlog
    unfold Format.targetExponent totalExponent Format.mantissaBits at hdepth
    rw [target_eq]
    omega
  rw [hvalue]
  exact rounds_roundWithAccuracy .positive (approximates_sqrt _) htarget

theorem rounds_sqrt (hu : u.isFinite = true) (hnonneg : 0 ≤ value u) :
    Rounds format (√(value u)) (UnpackedFloat.sqrt format u) := by
  cases u with
  | notANumber | infinity => cases hu
  | zero sign =>
    have hroot : √(value (.zero sign)) = 0 := Real.sqrt_zero
    rw [hroot]
    exact rounds_zero sign
  | finite sign m e hm =>
    cases sign with
    | positive => exact rounds_sqrtCore hm e
    | negative => exact absurd hnonneg (neg_lt_zero.mpr (mantissa_pos hm e)).not_ge

/-! ### Whole numbers -/

theorem rounds_ofNat (format : Format) (n : Nat) :
    Rounds format n (UnpackedFloat.ofNat format n) := by
  have hrounds := rounds_normalize format n 0 .positive
  rw [zpow_zero, mul_one, Int.cast_natCast] at hrounds
  exact hrounds

/-! ### Whole parts -/

theorem exists_roundToInt (m : Nat) (e : Int) :
    ∃ n : Nat, UnpackedFloat.roundToInt .positive m e = n ∧ (n : ℝ) ≤ m * 2 ^ e ∧
      (m * 2 ^ e : ℝ) < n + 1 := by
  let d := decreaseExponent m e 0
  have hexponent : d.2 = -((0 - d.2).toNat : Int) := by
    have hle : d.2 ≤ 0 := decreaseExponent_snd_le m e 0
    omega
  have hvalue : (d.1 * 2 ^ d.2 : ℝ) = m * 2 ^ e := value_decreaseExponent m e 0
  rw [hexponent, zpow_neg, zpow_natCast, ← div_eq_mul_inv] at hvalue
  obtain ⟨hmantissa, haccuracy⟩ := accuracy_ofMantissaAndAccuracy d.1 .exact
  have hexact : Approximates (ExtendedMantissa.ofMantissaAndAccuracy d.1 .exact).mantissa
      (ExtendedMantissa.ofMantissaAndAccuracy d.1 .exact).accuracy d.1 := by
    rw [hmantissa, haccuracy]
    exact approximates_self d.1
  have happroximates := hexact.shiftRight (0 - d.2).toNat
  rw [hvalue] at happroximates
  exact ⟨_, rfl, happroximates.le, happroximates.lt⟩

theorem exists_toInt (low high : Int) (hu : u.isFinite = true) (hnonneg : 0 ≤ value u) :
    ∃ n : Nat, u.toInt low high = n ∧ n ≤ value u ∧ value u < n + 1 := by
  cases u with
  | notANumber | infinity => cases hu
  | zero =>
    refine ⟨0, rfl, Nat.cast_zero.le, ?_⟩
    rw [Nat.cast_zero, zero_add]
    exact one_pos
  | finite sign m e hm =>
    cases sign with
    | positive => exact exists_roundToInt m e
    | negative => exact absurd hnonneg (neg_neg_of_pos (mantissa_pos hm e)).not_ge

/-! ### Decimals -/

theorem rounds_mul_power (hm : 0 < m) (e : Nat) :
    Rounds format (m * 10 ^ e)
      (UnpackedFloat.roundWithAccuracy format .positive (m <<< format.mantissaBits * 10 ^ e)
        (-format.mantissaBits + 0) .exact) := by
  have hvalue : (m * 10 ^ e : ℝ) =
      (m <<< format.mantissaBits * 10 ^ e : Nat) * 2 ^ (-format.mantissaBits + 0 : Int) := by
    have hne : (2 : ℝ) ^ format.mantissaBits ≠ 0 := by positivity
    rw [add_zero, zpow_neg, zpow_natCast, Nat.shiftLeft_eq]
    push_cast
    field_simp
  have htarget : -format.mantissaBits + 0 ≤
      target format (m <<< format.mantissaBits * 10 ^ e) (-format.mantissaBits + 0) := by
    have hle : 2 ^ format.mantissaBits ≤ m <<< format.mantissaBits * 10 ^ e := by
      rw [Nat.shiftLeft_eq, Nat.mul_right_comm]
      exact Nat.le_mul_of_pos_left _ (Nat.mul_pos hm (Nat.pow_pos (by decide)))
    have hpos := (Nat.two_pow_pos format.mantissaBits).trans_le hle
    have hlog := (Nat.le_log2 hpos.ne').mpr hle
    rw [target_eq]
    unfold Format.mantissaBits at *
    omega
  rw [hvalue]
  exact rounds_roundWithAccuracy .positive (approximates_self _) htarget

theorem rounds_ofScientific (m : Nat)
    (hlow : m ≠ 0 → -((2 ^ format.exponentBits : Int) + m.log2) ≤ e)
    (hhigh : e ≤ 2 ^ format.exponentBits) :
    Rounds format (m * 10 ^ e) (UnpackedFloat.ofScientific format m e) := by
  unfold UnpackedFloat.ofScientific
  split
  . next hzero =>
    rw [hzero, Nat.cast_zero, zero_mul]
    exact rounds_zero .positive
  . next hm =>
    rw [if_neg hhigh.not_gt, if_neg (hlow hm).not_gt]
    split
    . next he =>
      obtain ⟨k, rfl⟩ := Int.eq_ofNat_of_zero_le he
      exact rounds_mul_power (Nat.pos_of_ne_zero hm) k
    . next he =>
      have hpower : 0 < 10 ^ (-e).toNat := Nat.pow_pos (by decide)
      have hvalue : (m * 10 ^ e : ℝ) = value (.finite .positive m 0 (Nat.pos_of_ne_zero hm)) /
          value (.finite .positive (10 ^ (-e).toNat) 0 hpower) := by
        have hexponent : e = -((-e).toNat : Int) := by omega
        change _ = (m * 2 ^ (0 : Int) : ℝ) / ((10 ^ (-e).toNat : Nat) * 2 ^ (0 : Int))
        rw [zpow_zero, mul_one, mul_one]
        conv_lhs => rw [hexponent, zpow_neg, zpow_natCast]
        push_cast
        exact (div_eq_mul_inv _ _).symm
      rw [hvalue]
      exact rounds_div rfl rfl (mantissa_pos hpower 0).ne'

theorem rounds_whole (format : Format) (m : Nat) :
    Rounds format m (UnpackedFloat.ofScientific format m 0) := by
  have hpow : (0 : Int) ≤ 2 ^ format.exponentBits := by positivity
  have hrounds := rounds_ofScientific (e := 0) m (fun _ => by omega) hpow
  rwa [zpow_zero, mul_one] at hrounds

theorem rounds_fraction (m : Nat) {k : Nat}
    (hk : m ≠ 0 → k ≤ 2 ^ format.exponentBits + m.log2) :
    Rounds format (m / 10 ^ k) (UnpackedFloat.ofScientific format m (Int.negOfNat k)) := by
  have hexponent : Int.negOfNat k = -(k : Int) := Int.negOfNat_eq
  have hpow : (0 : Int) ≤ 2 ^ format.exponentBits := by positivity
  have hlow : m ≠ 0 → -((2 ^ format.exponentBits : Int) + m.log2) ≤ -k := by
    intro hm
    have hk : (k : Int) ≤ 2 ^ format.exponentBits + m.log2 := by exact_mod_cast hk hm
    omega
  have hrounds : Rounds format (m * 10 ^ (-k : Int)) (UnpackedFloat.ofScientific format m (-k)) :=
    rounds_ofScientific m hlow (by omega)
  rwa [zpow_neg, zpow_natCast, ← div_eq_mul_inv, ← hexponent] at hrounds

end Floating

end ReefRover
