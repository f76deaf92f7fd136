import ReefRover.Proofs.Floating.Stored

/-!
This module contains numbers of single precision: which bounds there are, square roots, and what
whole numbers and decimal fractions are rounded to.
-/

namespace ReefRover

namespace Single

open Float.Model
open Floating

variable {x : Float32} {a b low high : ℝ}

theorem bound (n : Nat) (k : Int) (hb : |b| = n * 2 ^ k) (hn : n < 2 ^ 24)
    (hk : -149 ≤ k ∧ k ≤ 104) : Bound .binary32 b :=
  bound_of n k hb hn hk.1 (by
    have hmost : ((Format.binary32.exponentBias + 1 : Nat) : Int) = 104 + 24 := rfl
    have hbits : (Format.binary32.mantissaBits : Int) = 24 := rfl
    omega)

theorem bound_natCast {n : Nat} (hn : n < 2 ^ 24) : Bound .binary32 (n : ℝ) :=
  Floating.bound_natCast n hn (by decide)

theorem gives_sqrt (hx : Within x a b) (hnonneg : 0 ≤ toReal x) : Gives x.sqrt √(toReal x) :=
  ⟨_, rounds_sqrt hx.isFinite hnonneg, rfl⟩

/-! ### Decimals -/

theorem gives_toFloat32 (n : UInt64) : Gives n.toFloat32 n.toNat :=
  gives_natCast rfl

theorem within_toFloat32 {m : Nat} (hm : m < 2 ^ 24) : Within m.toUInt64.toFloat32 m m := by
  have htoNat : m.toUInt64.toNat = m := UInt64.toNat_ofNat_of_lt' (hm.trans (by decide))
  have hgives := gives_toFloat32 m.toUInt64
  rw [htoNat] at hgives
  exact hgives.exactly (bound_natCast hm)

theorem within_power {e : Nat} (he : e < Float32.exactlyRepresentablePowersOfTen.size) :
    Within Float32.exactlyRepresentablePowersOfTen[e] (10 ^ e) (10 ^ e) := by
  have hall : ∀ e : Fin 11, Float32.exactlyRepresentablePowersOfTen.getD e.val 0 =
      .ofModel (.pack (UnpackedFloat.ofNat .binary32 (10 ^ e.val))) := by
    decide +kernel
  have hpower := hall ⟨e, he⟩
  rw [Array.getD_eq_getD_getElem?, Array.getElem?_eq_getElem he, Option.getD_some] at hpower
  have he : e ≤ 10 := Nat.le_of_lt_succ he
  have hodd : 5 ^ e ≤ 5 ^ 10 := Nat.pow_le_pow_right (by decide) he
  rw [hpower]
  exact within_ten_pow rfl (hodd.trans_lt (by decide))
    ((Nat.add_le_add_right he _).trans (by decide))

theorem gives_ofNat (n : Nat) : Gives (Float32.ofNat n) n := by
  change Gives (Float32.ofScientific n false 0) n
  unfold Float32.ofScientific
  split
  . next h =>
    have hgives := gives_mul_of_eq (within_toFloat32 (h.1.trans (by decide)))
      (within_power (e := 0) (by decide))
    rw [pow_zero, mul_one] at hgives
    exact hgives
  . exact ⟨_, rounds_whole .binary32 n, rfl⟩

theorem within_ofNat {n : Nat} (hn : n < 2 ^ 24) : Within (Float32.ofNat n) n n :=
  (gives_ofNat n).exactly (bound_natCast hn)

theorem gives_fraction (m : Nat) {e : Nat} (he : m ≠ 0 → e ≤ 2 ^ 8 + m.log2) :
    Gives (Float32.ofScientific m true e) (m / 10 ^ e) := by
  unfold Float32.ofScientific
  split
  . next h =>
    exact gives_div_of_eq (within_toFloat32 (h.1.trans (by decide)))
      (within_power (Nat.lt_succ_of_le h.2)) (by positivity)
  . exact ⟨_, rounds_fraction m he, rfl⟩

end Single

end ReefRover
