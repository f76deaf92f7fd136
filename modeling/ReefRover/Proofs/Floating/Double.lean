import ReefRover.Proofs.Floating.Stored

/-!
This module contains numbers of double precision: which bounds there are, what whole numbers and
decimal fractions are rounded to, and the whole part of a number.
-/

namespace ReefRover

namespace Double

open Float.Model
open Floating

variable {x : Float} {a b : ℝ}

theorem bound_natCast {n : Nat} (hn : n < 2 ^ 53) : Bound .binary64 (n : ℝ) :=
  Floating.bound_natCast n hn (by decide)

/-! ### Decimals -/

theorem gives_toFloat (n : UInt64) : Gives n.toFloat n.toNat :=
  gives_natCast rfl

theorem within_toFloat {m : Nat} (hm : m < 2 ^ 53) : Within m.toUInt64.toFloat m m := by
  have htoNat : m.toUInt64.toNat = m := UInt64.toNat_ofNat_of_lt' (hm.trans (by decide))
  have hgives := gives_toFloat m.toUInt64
  rw [htoNat] at hgives
  exact hgives.exactly (bound_natCast hm)

theorem within_power {e : Nat} (he : e < Float.exactlyRepresentablePowersOfTen.size) :
    Within Float.exactlyRepresentablePowersOfTen[e] (10 ^ e) (10 ^ e) := by
  have hall : ∀ e : Fin 23, Float.exactlyRepresentablePowersOfTen.getD e.val 0 =
      .ofModel (.pack (UnpackedFloat.ofNat .binary64 (10 ^ e.val))) := by
    decide +kernel
  have hpower := hall ⟨e, he⟩
  rw [Array.getD_eq_getD_getElem?, Array.getElem?_eq_getElem he, Option.getD_some] at hpower
  have he : e ≤ 22 := Nat.le_of_lt_succ he
  have hodd : 5 ^ e ≤ 5 ^ 22 := Nat.pow_le_pow_right (by decide) he
  rw [hpower]
  exact within_ten_pow rfl (hodd.trans_lt (by decide))
    ((Nat.add_le_add_right he _).trans (by decide))

theorem gives_ofNat (n : Nat) : Gives (Float.ofNat n) n := by
  change Gives (Float.ofScientific n false 0) n
  unfold Float.ofScientific
  split
  . next h =>
    have hgives := gives_mul_of_eq (within_toFloat h.1) (within_power (e := 0) (by decide))
    rw [pow_zero, mul_one] at hgives
    exact hgives
  . exact ⟨_, rounds_whole .binary64 n, rfl⟩

theorem within_ofNat {n : Nat} (hn : n < 2 ^ 53) : Within (Float.ofNat n) n n :=
  (gives_ofNat n).exactly (bound_natCast hn)

theorem gives_fraction (m : Nat) {e : Nat} (he : m ≠ 0 → e ≤ 2 ^ 11 + m.log2) :
    Gives (Float.ofScientific m true e) (m / 10 ^ e) := by
  unfold Float.ofScientific
  split
  . next h =>
    exact gives_div_of_eq (within_toFloat h.1) (within_power (Nat.lt_succ_of_le h.2))
      (by positivity)
  . exact ⟨_, rounds_fraction m he, rfl⟩

/-! ### Whole parts -/

theorem toNat_ofNatClamp {n : Nat} (hn : n < UInt64.size) : (UInt64.ofNatClamp n).toNat = n := by
  unfold UInt64.ofNatClamp
  rw [dif_pos hn, UInt64.toNat_ofNatLT]

theorem toUInt64_bounds {n : Nat} (hx : Within x 0 n) (hn : n < 2 ^ 64) :
    x.toUInt64.toNat ≤ toReal x ∧ toReal x < x.toUInt64.toNat + 1 := by
  obtain ⟨w, hw, hle, hlt⟩ := exists_toInt 0 (UInt64.size - 1) hx.isFinite hx.ge
  have hwhole : x.toUInt64.toNat = w := by
    have hwn : w ≤ n := by exact_mod_cast hle.trans hx.le
    change (UInt64.ofNatClamp ((unpacked x).toInt 0 (UInt64.size - 1)).toNat).toNat = w
    rw [hw, Int.toNat_natCast, toNat_ofNatClamp (hwn.trans_lt hn)]
  rw [hwhole]
  exact ⟨hle, hlt⟩

end Double

end ReefRover
