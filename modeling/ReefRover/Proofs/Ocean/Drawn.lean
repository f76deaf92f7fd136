import ReefRover.Proofs.Ocean.Laid
import ReefRover.Proofs.Scalar.Constants

/-!
This module contains what the pieces of a reef are drawn as. Whatever the random numbers are, there
is a piece in each cell of each edge, and how far it is inset and how large it is lies between the
limits of the draws.
-/

namespace ReefRover

open Floating Single

/-! ### Draws -/

namespace Random

theorem within_unit (g : Generator) : Within ((unit.run g).1 : Float32) 0 1 := by
  obtain ⟨n, hn, hunit⟩ := exists_ratio_unit (R := Float32) g
  rw [hunit]
  apply (gives_ratio (hn.trans (by decide)) (by decide) (by decide)).within bound_zero bound_one
  . positivity
  . exact div_le_one_of_le₀ (Nat.cast_le.mpr hn.le) (Nat.cast_nonneg _)

theorem within_range (low high : Nat) (hle : low ≤ high) (hhigh : high < 2 ^ 24) :
    Always (range (Scalar.ofNat low : Float32) (Scalar.ofNat high)) (Within · low high) := by
  intro g
  have hlow := within_scalar (hle.trans_lt hhigh)
  have hwidth : Within (Scalar.ofNat high - Scalar.ofNat low : Float32) (high - low : Nat)
      (high - low : Nat) := by
    have hgives := gives_sub (within_scalar hhigh) hlow
    rw [(within_scalar hhigh).toReal_eq, hlow.toReal_eq, ← Nat.cast_sub hle] at hgives
    exact hgives.exactly (bound_natCast ((Nat.sub_le _ _).trans_lt hhigh))
  have hunit := within_unit g
  have hpart : Within ((unit.run g).1 * (Scalar.ofNat high - Scalar.ofNat low) : Float32) 0
      (high - low : Nat) := by
    apply (gives_mul hunit hwidth).within bound_zero
      (bound_natCast ((Nat.sub_le _ _).trans_lt hhigh))
    . exact mul_nonneg hunit.ge ((Nat.cast_nonneg _).trans hwidth.ge)
    . rw [hwidth.toReal_eq]
      exact mul_le_of_le_one_left (Nat.cast_nonneg _) hunit.toReal_le
  rw [run_range]
  apply (gives_add hpart hlow).within (bound_natCast (hle.trans_lt hhigh)) (bound_natCast hhigh)
  . rw [hlow.toReal_eq]
    exact le_add_of_nonneg_left hpart.ge
  . rw [hlow.toReal_eq]
    have hsum : ((high - low : Nat) : ℝ) + low = high := by
      rw [← Nat.cast_add, Nat.sub_add_cancel hle]
    have hle := hpart.toReal_le
    linarith

end Random

/-! ### Pieces -/

namespace Reef

theorem cells_eq (layout : Layout) : cells Float32 layout = 11 := by
  cases layout with
  | normal => decide +kernel
  | enlarged => decide +kernel

theorem within_along (layout : Layout) {cell : Nat} (hcell : cell < 11) :
    Within (along layout cell : Float32) (((2 * cell + 1) * 18 : Nat) * layout.exactFactor)
      (((2 * cell + 1) * 18 : Nat) * layout.exactFactor) := by
  have hhalf : Within (Scalar.ratio 1 2 : Float32) (2 ^ (-1 : Int)) (2 ^ (-1 : Int)) :=
    Tuning.within_motionDuration
  have hmiddle : Within (Scalar.ofNat cell + Scalar.ratio 1 2 : Float32)
      ((2 * cell + 1 : Nat) * 2 ^ (-1 : Int)) ((2 * cell + 1 : Nat) * 2 ^ (-1 : Int)) := by
    have hcell' := within_scalar (n := cell) (hcell.trans (by decide))
    have hgives := gives_add hcell' hhalf
    have hsum : (cell : ℝ) + 2 ^ (-1 : Int) = (2 * cell + 1 : Nat) * 2 ^ (-1 : Int) := by
      push_cast
      rw [add_mul, zpow_neg_one]
      ring
    rw [hcell'.toReal_eq, hhalf.toReal_eq, hsum] at hgives
    apply hgives.exactly
    exact bound (2 * cell + 1) (-1) (abs_of_nonneg (by positivity)) (by omega) (by decide)
  have hgives := gives_mul_of_eq hmiddle (layout.within_scaled (n := 36) (by decide))
  have hproduct : ((2 * cell + 1 : Nat) : ℝ) * 2 ^ (-1 : Int) * ((36 : Nat) * layout.exactFactor) =
      ((2 * cell + 1) * 18 : Nat) * layout.exactFactor := by
    push_cast
    rw [zpow_neg_one]
    ring
  rw [hproduct] at hgives
  apply hgives.exactly
  apply layout.bound_scaled ((2 * cell + 1) * 18) 0 _ (by omega) (by decide)
  rw [zpow_zero, mul_one]

structure Placed (layout : Layout) (cell : Nat) (edge : Edge) (piece : CoralPiece Float32) :
    Prop where
  position : ∃ inset, Within inset 0 (8 * layout.exactFactor) ∧
    piece.position = edge.place layout.canvasSize (along layout cell) inset
  radius : Within piece.radius (10 * layout.exactFactor) (18 * layout.exactFactor)

theorem within_mul_factor (layout : Layout) {a : Float32} {low high : Nat}
    (h : Within a low high) (hlow : low < 2 ^ 22) (hhigh : high < 2 ^ 22) :
    Within (a * layout.factor) (low * layout.exactFactor) (high * layout.exactFactor) := by
  have hfactor := layout.within_factor
  have hpos := layout.exactFactor_pos
  apply (gives_mul h hfactor).within
  . exact layout.bound_scaled low 0 (by rw [zpow_zero, mul_one]) hlow (by decide)
  . exact layout.bound_scaled high 0 (by rw [zpow_zero, mul_one]) hhigh (by decide)
  . rw [hfactor.toReal_eq]
    exact mul_le_mul_of_nonneg_right h.le_toReal hpos.le
  . rw [hfactor.toReal_eq]
    exact mul_le_mul_of_nonneg_right h.toReal_le hpos.le

theorem placed_stream (layout : Layout) (cell : Nat) (edge : Edge) (g : Generator) (i : Nat) :
    Placed layout cell edge (drawnAs layout cell edge (drawing.stream g i)) := by
  have hinset := Random.within_range 0 8 (by decide) (by decide)
  have hradius := Random.within_range 10 18 (by decide) (by decide)
  obtain ⟨hinset, hradius⟩ := (always_drawing hinset hradius).stream g i
  refine ⟨⟨_, ?_, rfl⟩, within_mul_factor layout hradius (by decide) (by decide)⟩
  have hwithin := within_mul_factor layout hinset (by decide) (by decide)
  rwa [Nat.cast_zero, zero_mul] at hwithin

/-! ### Reefs -/

def Grown (layout : Layout) (coral : List (CoralPiece Float32)) : Prop :=
  ∃ g, coral = ((pieces layout).run g).1

variable {layout : Layout} {coral : List (CoralPiece Float32)}

theorem Grown.placed (h : Grown layout coral) {piece : CoralPiece Float32}
    (hpiece : piece ∈ coral) : ∃ cell < 11, ∃ edge, Placed layout cell edge piece := by
  obtain ⟨g, rfl⟩ := h
  rw [run_pieces] at hpiece
  obtain ⟨cell, hcell, edge, i, rfl⟩ := exists_of_mem_laid hpiece
  rw [cells_eq] at hcell
  exact ⟨cell, hcell, edge, placed_stream layout cell edge g i⟩

theorem Grown.exists_placed (h : Grown layout coral) {cell : Nat} (hcell : cell < 11)
    (edge : Edge) : ∃ piece ∈ coral, Placed layout cell edge piece := by
  obtain ⟨g, rfl⟩ := h
  rw [← cells_eq layout] at hcell
  obtain ⟨i, hmem⟩ := exists_mem_laid (drawing.stream g) hcell edge
  rw [run_pieces]
  exact ⟨_, hmem, placed_stream layout cell edge g i⟩

end Reef

end ReefRover
