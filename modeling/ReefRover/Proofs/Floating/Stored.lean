import ReefRover.Proofs.Floating.Bounds
import ReefRover.Proofs.Scalar.Undefined

/-!
This module contains bounds on stored numbers, in single and in double precision. Finite ones are
compared by their values, and the results of operations lie within all bounds of the format that
their exact values lie within.
-/

namespace ReefRover

namespace Floating

open Float.Model
open UnpackedFloat (Sign pack unpack)

/-- A type whose numbers are words of a format, and computed with as the format says. -/
class Stored (F : Type) [Add F] [Sub F] [Mul F] [Div F] [Neg F] [LT F] [LE F] where
  format : Format
  exponentBits_ge : 2 ≤ format.exponentBits
  mantissaBits_le : format.mantissaBits ≤ format.exponentBias + 1
  word : F → BitVec format.numBits
  word_add (x y : F) : word (x + y) =
    pack format (.add format (unpack format (word x)) (unpack format (word y)))
  word_sub (x y : F) : word (x - y) =
    pack format (.sub format (unpack format (word x)) (unpack format (word y)))
  word_mul (x y : F) : word (x * y) =
    pack format (.mul format (unpack format (word x)) (unpack format (word y)))
  word_div (x y : F) : word (x / y) =
    pack format (.div format (unpack format (word x)) (unpack format (word y)))
  word_neg (x : F) : word (-x) = pack format (unpack format (word x)).neg
  lt_iff (x y : F) :
    x < y ↔ (unpack format (word x)).compare (unpack format (word y)) = some .lt
  le_iff (x y : F) :
    x ≤ y ↔ ((unpack format (word x)).compare (unpack format (word y))).any (·.isLE) = true

instance : Stored Float32 where
  format := .binary32
  exponentBits_ge := by decide
  mantissaBits_le := by decide
  word x := x.toModel.toBits.toBitVec
  word_add _ _ := rfl
  word_sub _ _ := rfl
  word_mul _ _ := rfl
  word_div _ _ := rfl
  word_neg _ := rfl
  lt_iff := Single.lt_iff
  le_iff := Single.le_iff

instance : Stored Float where
  format := .binary64
  exponentBits_ge := by decide
  mantissaBits_le := by decide
  word x := x.toModel.toBits.toBitVec
  word_add _ _ := rfl
  word_sub _ _ := rfl
  word_mul _ _ := rfl
  word_div _ _ := rfl
  word_neg _ := rfl
  lt_iff x y := by
    change decide (x.toModel < y.toModel) = true ↔ _
    rw [decide_eq_true_iff]
    exact beq_iff_eq
  le_iff x y := by
    change decide (x.toModel ≤ y.toModel) = true ↔ _
    rw [decide_eq_true_iff]
    rfl

section Stored

variable {F : Type} [Add F] [Sub F] [Mul F] [Div F] [Neg F] [LT F] [LE F] [Stored F]

def unpacked (x : F) : UnpackedFloat :=
  unpack (Stored.format F) (Stored.word x)

noncomputable def toReal (x : F) : ℝ :=
  value (unpacked x)

/-- A finite number between two others. -/
def Within (x : F) (low high : ℝ) : Prop :=
  Between (unpacked x) low high

variable {x y : F} {a b c d low high v : ℝ} {k : Int}

namespace Within

theorem le_toReal (h : Within x a b) : a ≤ toReal x :=
  h.ge

theorem toReal_le (h : Within x a b) : toReal x ≤ b :=
  h.le

theorem mono (h : Within x a b) (hlow : low ≤ a) (hhigh : b ≤ high) : Within x low high :=
  ⟨h.isFinite, hlow.trans h.ge, h.le.trans hhigh⟩

theorem toReal_eq (h : Within x a a) : toReal x = a :=
  le_antisymm h.le h.ge

theorem self (h : Within x a b) : Within x (toReal x) (toReal x) :=
  ⟨h.isFinite, le_rfl, le_rfl⟩

end Within

theorem inFormat_unpacked (x : F) : InFormat (Stored.format F) (unpacked x) :=
  inFormat_unpack _ _

theorem bound_toReal (x : F) : Bound (Stored.format F) (toReal x) :=
  ⟨representable_value (inFormat_unpacked x), abs_value_unpack_lt Stored.exponentBits_ge _⟩

/-! ### Comparisons -/

theorem lt_iff_toReal (hx : Within x a b) (hy : Within y c d) : x < y ↔ toReal x < toReal y := by
  have hcompare := compare_eq hx.isFinite hy.isFinite (inFormat_unpacked x) (inFormat_unpacked y)
  rw [Stored.lt_iff]
  unfold unpacked at hcompare
  rw [hcompare, Option.some_inj, compare_lt_iff_lt]
  rfl

theorem le_iff_toReal (hx : Within x a b) (hy : Within y c d) : x ≤ y ↔ toReal x ≤ toReal y := by
  have hcompare := compare_eq hx.isFinite hy.isFinite (inFormat_unpacked x) (inFormat_unpacked y)
  rw [Stored.le_iff]
  unfold unpacked at hcompare
  rw [hcompare, Option.any_some, Ordering.isLE_iff_ne_gt]
  exact compare_le_iff_le

theorem within_of_le_of_le {z : F} (hx : Within x a b) (hz : Within z c d) (hxy : x ≤ y)
    (hyz : y ≤ z) : Within y (toReal x) (toReal z) := by
  have hfinite : (unpacked y).isFinite = true := by
    have hx := hx.isFinite
    have hz := hz.isFinite
    rw [Stored.le_iff] at hxy hyz
    unfold unpacked at hx hz ⊢
    -- nothing can be compared with what is undefined, and an infinity is beyond all finite numbers
    cases hy : unpack (Stored.format F) (Stored.word y) with
    | notANumber =>
      rw [hy] at hxy
      cases hu : unpack (Stored.format F) (Stored.word x) <;>
        (rw [hu] at hxy; cases hxy)
    | infinity sign =>
      rw [hy] at hxy hyz
      cases sign with
      | positive =>
        cases hw : unpack (Stored.format F) (Stored.word z) with
        | notANumber | infinity =>
          rw [hw] at hz
          cases hz
        | zero | finite =>
          rw [hw] at hyz
          cases hyz
      | negative =>
        cases hu : unpack (Stored.format F) (Stored.word x) with
        | notANumber | infinity =>
          rw [hu] at hx
          cases hx
        | zero | finite =>
          rw [hu] at hxy
          cases hxy
    | zero | finite => rfl
  have hy : Within y (toReal y) (toReal y) := ⟨hfinite, le_rfl, le_rfl⟩
  exact ⟨hfinite, (le_iff_toReal hx hy).mp hxy, (le_iff_toReal hy hz).mp hyz⟩

/-! ### Operations -/

/-- What a number is stored as if it is computed with the exact result `v`. -/
def Gives (x : F) (v : ℝ) : Prop :=
  ∃ u, Rounds (Stored.format F) v u ∧ Stored.word x = pack (Stored.format F) u

namespace Gives

theorem within (h : Gives x v) (hlow : Bound (Stored.format F) low)
    (hhigh : Bound (Stored.format F) high) (hge : low ≤ v) (hle : v ≤ high) :
    Within x low high := by
  obtain ⟨u, hrounds, hword⟩ := h
  unfold Within unpacked
  rw [hword]
  exact hrounds.between Stored.exponentBits_ge hlow hhigh hge hle

theorem exactly (h : Gives x v) (hv : Bound (Stored.format F) v) : Within x v v :=
  h.within hv hv le_rfl le_rfl

theorem within_abs (h : Gives x v) (hc : Bound (Stored.format F) c) (hv : |v| ≤ c) :
    Within x (-c) c :=
  h.within hc.neg hc (abs_le.mp hv).1 (abs_le.mp hv).2

theorem within_two_zpow (h : Gives x v)
    (hmin : (Stored.format F).minExponent + (Stored.format F).mantissaBitsWithoutImplicit ≤ k)
    (hmax : k ≤ (Stored.format F).exponentBias)
    (hv : |v| < 2 ^ k + 2 ^ (k - (Stored.format F).mantissaBits)) : Within x (-2 ^ k) (2 ^ k) := by
  obtain ⟨u, hrounds, hword⟩ := h
  unfold Within unpacked
  rw [hword]
  exact hrounds.between_two_zpow Stored.exponentBits_ge hmin hmax hv

theorem abs_sub_le (h : Gives x v) {l : Int} (hl : k + (Stored.format F).mantissaBits = l)
    (hmin : (Stored.format F).minExponent ≤ k) (hmax : l ≤ (Stored.format F).exponentBias)
    (hv : |v| < 2 ^ l) : |toReal x - v| ≤ 2 ^ k / 2 := by
  subst hl
  obtain ⟨u, hrounds, hword⟩ := h
  unfold toReal unpacked
  rw [hword, hrounds.unpack_pack Stored.exponentBits_ge hmin hmax hv]
  exact hrounds.near k hmin hv

end Gives

theorem gives_add (hx : Within x a b) (hy : Within y c d) : Gives (x + y) (toReal x + toReal y) :=
  ⟨_, rounds_add hx.isFinite hy.isFinite (inFormat_unpacked x) (inFormat_unpacked y),
    Stored.word_add x y⟩

theorem gives_sub (hx : Within x a b) (hy : Within y c d) : Gives (x - y) (toReal x - toReal y) :=
  ⟨_, rounds_sub hx.isFinite hy.isFinite (inFormat_unpacked x) (inFormat_unpacked y),
    Stored.word_sub x y⟩

theorem gives_mul (hx : Within x a b) (hy : Within y c d) : Gives (x * y) (toReal x * toReal y) :=
  ⟨_, rounds_mul hx.isFinite hy.isFinite (inFormat_unpacked x) (inFormat_unpacked y),
    Stored.word_mul x y⟩

theorem gives_div (hx : Within x a b) (hy : Within y c d) (hzero : toReal y ≠ 0) :
    Gives (x / y) (toReal x / toReal y) :=
  ⟨_, rounds_div hx.isFinite hy.isFinite hzero, Stored.word_div x y⟩

theorem gives_mul_of_eq (hx : Within x a a) (hy : Within y b b) : Gives (x * y) (a * b) := by
  have hgives := gives_mul hx hy
  rwa [hx.toReal_eq, hy.toReal_eq] at hgives

theorem gives_div_of_eq (hx : Within x a a) (hy : Within y b b) (hzero : b ≠ 0) :
    Gives (x / y) (a / b) := by
  have hgives := gives_div hx hy (by rwa [hy.toReal_eq])
  rwa [hx.toReal_eq, hy.toReal_eq] at hgives

theorem within_neg (h : Within x a b) : Within (-x) (-b) (-a) := by
  have hsize : |value (unpacked x).neg| < 2 ^ ((Stored.format F).exponentBias + 1) := by
    rw [value_neg, abs_neg]
    exact abs_value_unpack_lt Stored.exponentBits_ge _
  have hfinite := (isFinite_neg (unpacked x)).trans h.isFinite
  have hunpack : unpacked (-x) = (unpacked x).neg := by
    conv_lhs => rw [unpacked, Stored.word_neg]
    exact unpack_pack_of_abs_lt Stored.exponentBits_ge hfinite
      (inFormat_neg (inFormat_unpacked x)) hsize
  unfold Within
  rw [hunpack]
  refine ⟨hfinite, ?_, ?_⟩
  . rw [value_neg]
    exact neg_le_neg h.le
  . rw [value_neg]
    exact neg_le_neg h.ge

/-! ### Whole numbers -/

theorem gives_natCast {n : Nat} (h : Stored.word x =
    pack (Stored.format F) (.ofNat (Stored.format F) n)) : Gives x n :=
  ⟨_, rounds_ofNat (Stored.format F) n, h⟩

theorem within_ten_pow {e : Nat} (h : Stored.word x =
    pack (Stored.format F) (.ofNat (Stored.format F) (10 ^ e)))
    (he : 5 ^ e < 2 ^ (Stored.format F).mantissaBits)
    (hmax : e + (Stored.format F).mantissaBits ≤ (Stored.format F).exponentBias + 1) :
    Within x (10 ^ e) (10 ^ e) := by
  have hgives := gives_natCast h
  push_cast at hgives
  exact hgives.exactly (bound_ten_pow e he hmax)

/-! ### Magnitudes -/

theorem Within.abs_toReal_le (h : Within x (-a) a) : |toReal x| ≤ a :=
  abs_le.mpr ⟨h.ge, h.le⟩

theorem within_neg_abs (h : Within x (-a) a) : Within (-x) (-a) a := by
  have hneg := within_neg h
  rwa [neg_neg] at hneg

theorem within_add_abs (hx : Within x (-a) a) (hy : Within y (-b) b)
    (hc : Bound (Stored.format F) c) (h : a + b ≤ c) : Within (x + y) (-c) c :=
  (gives_add hx hy).within_abs hc
    ((abs_add_le _ _).trans ((add_le_add hx.abs_toReal_le hy.abs_toReal_le).trans h))

theorem within_sub_abs (hx : Within x (-a) a) (hy : Within y (-b) b)
    (hc : Bound (Stored.format F) c) (h : a + b ≤ c) : Within (x - y) (-c) c :=
  (gives_sub hx hy).within_abs hc
    ((abs_sub _ _).trans ((add_le_add hx.abs_toReal_le hy.abs_toReal_le).trans h))

theorem within_mul_abs (hx : Within x (-a) a) (hy : Within y (-b) b)
    (hc : Bound (Stored.format F) c) (h : a * b ≤ c) : Within (x * y) (-c) c := by
  apply (gives_mul hx hy).within_abs hc
  have hx := hx.abs_toReal_le
  rw [abs_mul]
  exact (mul_le_mul hx hy.abs_toReal_le (abs_nonneg _) ((abs_nonneg _).trans hx)).trans h

def AtMost (n : Nat) (x : F) : Prop :=
  Within x (-(n : ℝ)) n

namespace AtMost

variable {m n : Nat}

theorem isFinite (h : AtMost n x) : (unpacked x).isFinite = true :=
  Between.isFinite h

theorem of_eq (h : Within x n n) : AtMost n x :=
  Within.mono h (neg_le_self (Nat.cast_nonneg n)) le_rfl

theorem mono (h : AtMost n x) (hle : n ≤ m) : AtMost m x := by
  have hle : (n : ℝ) ≤ m := Nat.cast_le.mpr hle
  exact Within.mono h (neg_le_neg hle) hle

theorem neg (h : AtMost n x) : AtMost n (-x) :=
  within_neg_abs h

theorem add (hx : AtMost m x) (hy : AtMost n y)
    (hsum : m + n < 2 ^ (Stored.format F).mantissaBits) : AtMost (m + n) (x + y) :=
  within_add_abs hx hy (bound_natCast (m + n) hsum Stored.mantissaBits_le)
    (Nat.cast_add m n).ge

theorem mul (hx : AtMost m x) (hy : AtMost n y)
    (hproduct : m * n < 2 ^ (Stored.format F).mantissaBits) : AtMost (m * n) (x * y) :=
  within_mul_abs hx hy (bound_natCast (m * n) hproduct Stored.mantissaBits_le)
    (Nat.cast_mul m n).ge

theorem ite {p : Prop} [Decidable p] (hx : AtMost n x) (hy : AtMost n y) :
    AtMost n (if p then x else y) := by
  split
  . exact hx
  . exact hy

end AtMost

end Stored

end Floating

end ReefRover
