import Mathlib
import ReefRover.Scalar.Single

/-!
This module contains what equal numbers have in common. Two numbers of single precision that count
as equal may still differ in the sign of zero, but their distances from any third number have the
same square.
-/

namespace ReefRover

/-- Numbers that count as equal are equally far from any other number. -/
class Scalar.Metric (R : Type) [Scalar R] : Prop where
  square_sub_eq {a b : R} (h : (a == b) = true) (c : R) : (a - c) * (a - c) = (b - c) * (b - c)

namespace Single

open Float.Model

theorem sub_of_zeros (format : Format) (sign sign' : UnpackedFloat.Sign) (c : UnpackedFloat) :
    UnpackedFloat.sub format (.zero sign) c = UnpackedFloat.sub format (.zero sign') c ∨
      ∃ s s', UnpackedFloat.sub format (.zero sign) c = .zero s ∧
        UnpackedFloat.sub format (.zero sign') c = .zero s' := by
  cases c with
  | notANumber => exact .inl rfl
  | infinity s => exact .inl rfl
  | finite s m e hm => exact .inl rfl
  | zero s =>
    right
    unfold UnpackedFloat.sub
    dsimp only
    split <;> split <;> exact ⟨_, _, rfl, rfl⟩

theorem sub_eq_pack (a c : Float32) :
    a - c = .ofModel
      (.pack (UnpackedFloat.sub Format.binary32 a.toModel.unpack c.toModel.unpack)) :=
  rfl

theorem mul_self_pack_zero (sign : UnpackedFloat.Sign) :
    Float32.ofModel (.pack (.zero sign)) * Float32.ofModel (.pack (.zero sign)) =
      .ofModel (.pack (.zero .positive)) := by
  cases sign with
  | positive => rfl
  | negative => rfl

theorem square_sub_eq_of_zeros {a b : Float32} {sign sign' : UnpackedFloat.Sign}
    (ha : a.toModel.unpack = .zero sign) (hb : b.toModel.unpack = .zero sign') (c : Float32) :
    (a - c) * (a - c) = (b - c) * (b - c) := by
  rw [sub_eq_pack a, sub_eq_pack b, ha, hb]
  rcases sub_of_zeros Format.binary32 sign sign' c.toModel.unpack with heq | ⟨s, s', hs, hs'⟩
  . rw [heq]
  . rw [hs, hs', mul_self_pack_zero, mul_self_pack_zero]

instance : Scalar.Metric Float32 where
  square_sub_eq := by
    intro a b h c
    have hbeq : a.toModel.unpack.beq b.toModel.unpack = true := h
    obtain ⟨-, -, heq | ⟨ha, hb⟩ | ⟨ha, hb⟩⟩ :=
      (UnpackedFloat.beq_iff_ne_notANumber_and_eq _ _).mp hbeq
    . rw [sub_eq_pack a, sub_eq_pack b, heq]
    . exact square_sub_eq_of_zeros ha hb c
    . exact square_sub_eq_of_zeros ha hb c

end Single

end ReefRover
