import ReefRover.Proofs.Floating.Operations

/-!
This module contains bounds on floating-point numbers, for any format. If the exact result of an
operation lies between two numbers of the format, its rounded result does, too. A power of two even
bounds a result that exceeds it by too little to count.
-/

namespace ReefRover

namespace Floating

open Float.Model
open UnpackedFloat (pack unpack)

/-- A number of the format that is small enough to be packed. -/
structure Bound (format : Format) (b : ℝ) : Prop where
  representable : Representable format b
  lt : |b| < 2 ^ (format.exponentBias + 1)

structure Between (u : UnpackedFloat) (low high : ℝ) : Prop where
  isFinite : u.isFinite = true
  ge : low ≤ value u
  le : value u ≤ high

variable {format : Format} {u : UnpackedFloat} {a b low high x w : ℝ} {k : Int}

/-! ### Numbers of a format -/

theorem bound_of (n : Nat) (k : Int) (hb : |b| = n * 2 ^ k) (hn : n < 2 ^ format.mantissaBits)
    (hmin : format.minExponent ≤ k) (hmax : k + format.mantissaBits ≤ format.exponentBias + 1) :
    Bound format b := by
  refine ⟨⟨n, k, hn, hmin, hb⟩, ?_⟩
  calc |b| = n * 2 ^ k := hb
    _ < 2 ^ (format.mantissaBits + k : Int) := mul_two_zpow_lt hn k
    _ ≤ 2 ^ ((format.exponentBias + 1 : Nat) : Int) := two_zpow_le (by omega)
    _ = 2 ^ (format.exponentBias + 1) := zpow_natCast _ _

namespace Bound

theorem neg (h : Bound format b) : Bound format (-b) := by
  refine ⟨h.representable.neg, ?_⟩
  rw [abs_neg]
  exact h.lt

theorem abs (h : Bound format b) : Bound format |b| := by
  rcases abs_choice b with heq | heq
  . rwa [heq]
  . rw [heq]
    exact h.neg

theorem max (ha : Bound format a) (hb : Bound format b) : Bound format (max a b) := by
  rcases max_choice a b with heq | heq
  . rwa [heq]
  . rwa [heq]

end Bound

theorem representable_value (h : InFormat format u) : Representable format (value u) := by
  cases u with
  | notANumber | infinity | zero =>
    exact ⟨0, format.minExponent, Nat.two_pow_pos _, le_rfl, by simp [value]⟩
  | finite sign m e hm =>
    exact ⟨m, e, h.lt, h.min_le, abs_value_finite sign hm e⟩

theorem two_zpow_mul_two_pow (k : Int) (s : Nat) : (2 : ℝ) ^ k = (2 ^ s : Nat) * 2 ^ (k - s) := by
  have hk : k = s + (k - s) := by omega
  conv_lhs => rw [hk, two_zpow_add, zpow_natCast]
  push_cast
  rfl

theorem le_two_zpow_of_lt (hw : Representable format w)
    (hlt : w < 2 ^ k + 2 ^ (k - format.mantissaBitsWithoutImplicit)) : w ≤ 2 ^ k := by
  by_contra hnot
  have hgt := lt_of_not_ge hnot
  obtain ⟨n, l, hn, hl, hvalue⟩ := hw
  rw [abs_of_pos ((two_zpow_pos k).trans hgt)] at hvalue
  have hexponent : k - format.mantissaBitsWithoutImplicit ≤ l := by
    rw [hvalue] at hgt
    have hlt := lt_of_two_zpow_lt (hgt.trans (mul_two_zpow_lt hn l))
    unfold Format.mantissaBits at hlt
    omega
  have hpos := two_zpow_pos (k - format.mantissaBitsWithoutImplicit)
  rw [hvalue, mul_two_zpow hexponent, two_zpow_mul_two_pow k format.mantissaBitsWithoutImplicit]
    at hlt hgt
  rw [← add_one_mul] at hlt
  have hgt := lt_of_mul_lt_mul_right hgt hpos.le
  have hlt := lt_of_mul_lt_mul_right hlt hpos.le
  norm_cast at hgt hlt
  omega

/-! ### Results -/

theorem Rounds.between (h : Rounds format x u) (hbits : 2 ≤ format.exponentBits)
    (hlow : Bound format low) (hhigh : Bound format high) (hge : low ≤ x) (hle : x ≤ high) :
    Between (unpack format (pack format u)) low high := by
  have hge := (h.faithful low hlow.representable).2 hge
  have hle := (h.faithful high hhigh.representable).1 hle
  have hsize : |value u| < 2 ^ (format.exponentBias + 1) := by
    refine lt_of_le_of_lt ?_ (hlow.abs.max hhigh.abs).lt
    refine le_trans ?_ (le_abs_self _)
    exact abs_le_max_abs_abs hge hle
  rw [unpack_pack_of_abs_lt hbits h.isFinite h.inFormat hsize]
  exact ⟨h.isFinite, hge, hle⟩

theorem representable_two_zpow
    (hmin : format.minExponent + format.mantissaBitsWithoutImplicit ≤ k) :
    Representable format (2 ^ k) := by
  have hpos := Nat.two_pow_pos format.mantissaBitsWithoutImplicit
  have hpow := pow_mantissaBits format
  refine ⟨2 ^ format.mantissaBitsWithoutImplicit, k - format.mantissaBitsWithoutImplicit,
    by omega, by omega, ?_⟩
  rw [abs_of_pos (two_zpow_pos k)]
  exact two_zpow_mul_two_pow k _

theorem bound_two_zpow (hmin : format.minExponent + format.mantissaBitsWithoutImplicit ≤ k)
    (hmax : k ≤ format.exponentBias) : Bound format (2 ^ k) := by
  refine ⟨representable_two_zpow hmin, ?_⟩
  rw [abs_of_pos (two_zpow_pos k), ← zpow_natCast]
  exact zpow_lt_zpow_right₀ (by norm_num) (by omega)

theorem bound_natCast (n : Nat) (hn : n < 2 ^ format.mantissaBits)
    (hmax : format.mantissaBits ≤ format.exponentBias + 1) : Bound format (n : ℝ) := by
  apply bound_of n 0 _ hn (minExponent_nonpos format) (by omega)
  rw [zpow_zero, mul_one]
  exact abs_of_nonneg (Nat.cast_nonneg n)

theorem bound_ten_pow (e : Nat) (he : 5 ^ e < 2 ^ format.mantissaBits)
    (hmax : e + format.mantissaBits ≤ format.exponentBias + 1) : Bound format (10 ^ e) := by
  have hmin := minExponent_nonpos format
  apply bound_of (5 ^ e) e _ he (by omega) (by omega)
  rw [abs_of_nonneg (by positivity), zpow_natCast]
  push_cast
  rw [← mul_pow]
  norm_num

theorem le_two_zpow_of_near (hfaithful : Faithful format x w) (hnear : Near format x w)
    (hw : Representable format w)
    (hk : format.minExponent + format.mantissaBitsWithoutImplicit ≤ k)
    (hlt : x < 2 ^ k + 2 ^ (k - format.mantissaBits)) : w ≤ 2 ^ k := by
  rcases le_or_gt x (2 ^ k) with hle | hgt
  . exact (hfaithful _ (representable_two_zpow hk)).1 hle
  . have hlast : (2 : ℝ) ^ (k - format.mantissaBitsWithoutImplicit) =
        2 * 2 ^ (k - format.mantissaBits) := by
      have hexponent : k - (format.mantissaBitsWithoutImplicit : Int) =
          1 + (k - format.mantissaBits) := by
        unfold Format.mantissaBits
        omega
      rw [hexponent, two_zpow_add, zpow_one]
    have hsmall : (2 : ℝ) ^ (k - format.mantissaBits) ≤ 2 ^ k := two_zpow_le (by omega)
    have hx : |x| < 2 ^ (k - format.mantissaBitsWithoutImplicit + format.mantissaBits) := by
      have hexponent : k - (format.mantissaBitsWithoutImplicit : Int) + format.mantissaBits =
          1 + k := by
        unfold Format.mantissaBits
        omega
      rw [abs_of_pos ((two_zpow_pos k).trans hgt), hexponent, two_zpow_add, zpow_one]
      linarith
    have herror := (abs_le.mp (hnear _ (by omega) hx)).2
    apply le_two_zpow_of_lt hw
    linarith

theorem Rounds.unpack_pack (h : Rounds format x u) (hbits : 2 ≤ format.exponentBits)
    (hmin : format.minExponent ≤ k) (hmax : k + format.mantissaBits ≤ format.exponentBias)
    (hx : |x| < 2 ^ (k + format.mantissaBits)) : unpack format (pack format u) = u := by
  have hpow : Bound format (2 ^ (k + format.mantissaBits)) := by
    apply bound_two_zpow _ hmax
    unfold Format.mantissaBits
    omega
  have hge := (h.faithful _ hpow.neg.representable).2 (neg_lt_of_abs_lt hx).le
  have hle := (h.faithful _ hpow.representable).1 (lt_of_abs_lt hx).le
  apply unpack_pack_of_abs_lt hbits h.isFinite h.inFormat
  refine lt_of_le_of_lt ?_ hpow.abs.lt
  rw [abs_of_pos (two_zpow_pos _), abs_of_pos (two_zpow_pos _)]
  exact abs_le.mpr ⟨hge, hle⟩

theorem Rounds.between_two_zpow (h : Rounds format x u) (hbits : 2 ≤ format.exponentBits)
    (hmin : format.minExponent + format.mantissaBitsWithoutImplicit ≤ k)
    (hmax : k ≤ format.exponentBias) (hx : |x| < 2 ^ k + 2 ^ (k - format.mantissaBits)) :
    Between (unpack format (pack format u)) (-2 ^ k) (2 ^ k) := by
  obtain ⟨hge, hle⟩ := abs_lt.mp hx
  have hvalue := representable_value h.inFormat
  have hle := le_two_zpow_of_near h.faithful h.near hvalue hmin hle
  have hge := le_two_zpow_of_near h.faithful.neg h.near.neg hvalue.neg hmin (neg_lt.mp hge)
  have hsize : |value u| < 2 ^ (format.exponentBias + 1) := by
    calc |value u| ≤ 2 ^ k := abs_le.mpr ⟨neg_le.mp hge, hle⟩
      _ < 2 ^ ((format.exponentBias + 1 : Nat) : Int) :=
        zpow_lt_zpow_right₀ (by norm_num) (by omega)
      _ = 2 ^ (format.exponentBias + 1) := zpow_natCast _ _
  rw [unpack_pack_of_abs_lt hbits h.isFinite h.inFormat hsize]
  exact ⟨h.isFinite, neg_le.mp hge, hle⟩

end Floating

end ReefRover
