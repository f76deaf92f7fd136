import Mathlib
import ReefRover.Proofs.Ocean.Growth
import ReefRover.Proofs.Ocean.Ring

/-!
This module contains the proof that the reef is closed along the border of the canvas and leaves its
inside free, in exact arithmetic and for any draws. Whoever stands on the border touches coral, and
whoever keeps off it does not, so runs start clear of coral and all trash can be got from places
that are clear of coral.

From anywhere on the border some piece is at most 22 away along the edge and 8 across it, which is
less than the 30 that the robot and the piece reach together at least. The pieces are at most 8 away
from the border, and 38 is the most that they reach together with the robot. All lengths are those
of the normal layout, times the factor.
-/

namespace ReefRover

/-! ### Edges -/

section Reals

namespace Reef.Edge

noncomputable def border (edge : Edge) (size along : ℝ) : Point ℝ :=
  match edge with
  | top => { x := along, y := 0 }
  | right => { x := size, y := along }
  | bottom => { x := size - along, y := size }
  | left => { x := 0, y := size - along }

theorem onBorder_border (edge : Edge) {size along : ℝ} (h : 0 ≤ along ∧ along ≤ size) :
    (edge.border size along).OnBorder size := by
  have hsize := h.1.trans h.2
  have hback : 0 ≤ size - along ∧ size - along ≤ size :=
    ⟨sub_nonneg.mpr h.2, sub_le_self size h.1⟩
  cases edge with
  | top => exact ⟨h, ⟨le_rfl, hsize⟩, .inr (.inr (.inl rfl))⟩
  | right => exact ⟨⟨hsize, le_rfl⟩, h, .inr (.inl rfl)⟩
  | bottom => exact ⟨hback, ⟨hsize, le_rfl⟩, .inr (.inr (.inr rfl))⟩
  | left => exact ⟨⟨le_rfl, hsize⟩, hback, .inl rfl⟩

theorem exists_border {p : Point ℝ} {size : ℝ} (h : p.OnBorder size) :
    ∃ edge : Edge, ∃ along, (0 ≤ along ∧ along ≤ size) ∧ p = edge.border size along := by
  obtain ⟨x, y⟩ := p
  obtain ⟨hx, hy, hedge⟩ := h
  have hback (v : ℝ) (hv : 0 ≤ v ∧ v ≤ size) : 0 ≤ size - v ∧ size - v ≤ size :=
    ⟨sub_nonneg.mpr hv.2, sub_le_self size hv.1⟩
  rcases hedge with rfl | rfl | rfl | rfl
  . refine ⟨.left, size - y, hback y hy, ?_⟩
    exact congrArg (Point.mk 0) (sub_sub_cancel size y).symm
  . exact ⟨.right, y, hy, rfl⟩
  . exact ⟨.top, x, hx, rfl⟩
  . refine ⟨.bottom, y - x, hback x hx, ?_⟩
    exact congrArg (Point.mk · y) (sub_sub_cancel y x).symm

end Reef.Edge

end Reals

section Exact

variable [Exact]

namespace Reef

variable {layout : Layout}

namespace Edge

theorem distance_place (edge : Edge) (size along inset along' inset' : ℝ) :
    (edge.place size along inset).distance (edge.place size along' inset') =
      Point.distance ⟨along, inset⟩ ⟨along', inset'⟩ := by
  cases edge with
  | top => rfl
  | right | bottom | left =>
    unfold Point.distance place
    dsimp only
    exact congrArg Real.sqrt (by ring)

theorem place_zero (edge : Edge) (size along : ℝ) :
    edge.place size along 0 = edge.border size along := by
  have hsize := sub_zero size
  cases edge with
  | top => rfl
  | right => exact congrArg (Point.mk · along) hsize
  | bottom => exact congrArg (Point.mk (size - along)) hsize
  | left => rfl

end Edge

theorem cells_exact (layout : Layout) : cells ℝ layout = 11 := by
  have hpos := layout.exactFactor_pos
  have hspacing : (Tuning.coralSpacing * layout.factor : ℝ) = 36 * layout.exactFactor :=
    layout.scaled_eq 36
  have hcount : ⌊400 * layout.exactFactor / (36 * layout.exactFactor)⌋₊ = 11 := by
    rw [mul_div_mul_right _ _ hpos.ne', Nat.floor_eq_iff (by norm_num)]
    norm_num
  unfold cells
  dsimp only
  rw [layout.canvasSize_eq, hspacing]
  exact congrArg (min · (2 ^ 32 - 1)) hcount

structure Draw.InRange (draw : Draw ℝ) : Prop where
  inset : 0 ≤ draw.inset ∧ draw.inset ≤ 8
  radius : 10 ≤ draw.radius ∧ draw.radius ≤ 18

theorem inRange_drawing : Random.Always drawing Draw.InRange := by
  have hinset := Random.mem_range (Nat.cast_le.mpr (by decide) : ((0 : ℕ) : ℝ) ≤ (8 : ℕ))
  have hradius := Random.mem_range (Nat.cast_le.mpr (by decide) : ((10 : ℕ) : ℝ) ≤ (18 : ℕ))
  have hdraw := always_drawing hinset hradius
  intro g
  obtain ⟨hinset, hradius⟩ := hdraw g
  rw [Nat.cast_zero, Nat.cast_ofNat] at hinset
  rw [Nat.cast_ofNat, Nat.cast_ofNat] at hradius
  exact ⟨hinset, hradius⟩

theorem along_eq (layout : Layout) (cell : Nat) :
    (along layout cell : ℝ) = ((2 * cell + 1) * 18 : Nat) * layout.exactFactor := by
  have hmiddle (f : ℝ) :
      (cell + ((1 : ℕ) : ℝ) / (2 : ℕ)) * (((36 : ℕ) : ℝ) * f) = ((2 * cell + 1) * 18 : ℕ) * f := by
    push_cast
    ring
  rw [← layout.factor_eq]
  exact hmiddle _

theorem along_mem (layout : Layout) {cell : Nat} (hcell : cell < 11) :
    0 ≤ (along layout cell : ℝ) ∧ (along layout cell : ℝ) ≤ layout.canvasSize := by
  have hpos := layout.exactFactor_pos
  have hle : (2 * cell + 1) * 18 ≤ 400 := by omega
  rw [along_eq, layout.canvasSize_eq]
  refine ⟨by positivity, mul_le_mul_of_nonneg_right ?_ hpos.le⟩
  exact_mod_cast hle

variable {robot : Point ℝ} {cell : Nat} {draw : Draw ℝ}

theorem reach_mem (layout : Layout) (cell : Nat) (edge : Edge) (hdraw : draw.InRange) :
    30 * layout.exactFactor ≤
        Contact.robotRadius layout.factor + (drawnAs layout cell edge draw).radius ∧
      Contact.robotRadius layout.factor + (drawnAs layout cell edge draw).radius ≤
        38 * layout.exactFactor := by
  have hpos := layout.exactFactor_pos
  have hradius : (drawnAs layout cell edge draw).radius = draw.radius * layout.exactFactor := by
    rw [← layout.factor_eq]
    rfl
  have hle := mul_le_mul_of_nonneg_right hdraw.radius.1 hpos.le
  have hge := mul_le_mul_of_nonneg_right hdraw.radius.2 hpos.le
  rw [hradius, layout.robotRadius_eq]
  constructor
  . linarith
  . linarith

theorem distance_drawnAs (edge : Edge) (hdraw : draw.InRange) {t : ℝ} {a c : ℕ}
    (ht : |t - along layout cell| ≤ a * layout.exactFactor) (h : a ^ 2 + 8 ^ 2 ≤ c ^ 2) :
    (edge.border layout.canvasSize t).distance (drawnAs layout cell edge draw).position ≤
      c * layout.exactFactor := by
  have hpos := layout.exactFactor_pos
  have hinset : |0 - draw.inset * layout.exactFactor| ≤ 8 * layout.exactFactor := by
    rw [zero_sub, abs_neg, abs_of_nonneg (mul_nonneg hdraw.inset.1 hpos.le)]
    exact mul_le_mul_of_nonneg_right hdraw.inset.2 hpos.le
  have hsquares : (a * layout.exactFactor) ^ 2 + (8 * layout.exactFactor) ^ 2 ≤
      (c * layout.exactFactor) ^ 2 := by
    rw [mul_pow, mul_pow, mul_pow, ← add_mul]
    exact mul_le_mul_of_nonneg_right (by exact_mod_cast h) (sq_nonneg _)
  rw [← Edge.place_zero]
  refine (edge.distance_place _ _ _ _ _).trans_le
    (Point.distance_le ht ?_ (by positivity) hsquares)
  dsimp only
  rw [layout.factor_eq]
  exact hinset

/-! ### The ring -/

variable {draws : Nat → Draw ℝ}

theorem exists_overlaps (hdraws : ∀ i, (draws i).InRange)
    (hrobot : robot.OnBorder layout.canvasSize) :
    ∃ piece ∈ laid layout draws, piece.Overlaps robot layout.factor := by
  obtain ⟨edge, t, ht, rfl⟩ := Edge.exists_border hrobot
  have hpos := layout.exactFactor_pos
  rw [layout.canvasSize_eq] at ht
  obtain ⟨cell, hcell, hnear⟩ := exists_cell ht
  obtain ⟨i, hmem⟩ := exists_mem_laid draws (hcell.trans_eq (cells_exact layout).symm) edge
  refine ⟨_, hmem, ?_⟩
  rw [← along_eq] at hnear
  -- 22 along the edge and 8 across it are less than 24 in all
  have hdistance := distance_drawnAs edge (hdraws i) (a := 22) (c := 24) hnear (by decide)
  refine hdistance.trans_lt (lt_of_lt_of_le ?_ (reach_mem layout cell edge (hdraws i)).1)
  push_cast
  linarith

theorem not_overlaps (hdraws : ∀ i, (draws i).InRange)
    (hrobot : robot.KeepsOff layout.canvasSize (46 * layout.factor)) {piece : CoralPiece ℝ}
    (hpiece : piece ∈ laid layout draws) : ¬ piece.Overlaps robot layout.factor := by
  obtain ⟨cell, hcell, edge, i, rfl⟩ := exists_of_mem_laid hpiece
  rw [cells_exact] at hcell
  -- the point of the border next to the piece is not far from it
  have hborder := hrobot _ (edge.onBorder_border (along_mem layout hcell))
  have hnear : |(along layout cell : ℝ) - along layout cell| ≤ (0 : ℕ) * layout.exactFactor := by
    rw [sub_self, abs_zero, Nat.cast_zero, zero_mul]
  have hdistance := distance_drawnAs edge (hdraws i) (a := 0) (c := 8) hnear (by decide)
  have htriangle := robot.distance_triangle (drawnAs layout cell edge (draws i)).position
    (edge.border layout.canvasSize (along layout cell))
  have hreach := (reach_mem layout cell edge (hdraws i)).2
  rw [layout.factor_eq] at hborder
  rw [Point.distance_comm] at hdistance
  unfold CoralPiece.Overlaps
  rw [not_lt]
  push_cast at hdistance
  linarith

end Reef

theorem Ocean.keepsOff_center (ocean : Ocean ℝ) :
    ocean.center.KeepsOff ocean.layout.canvasSize (46 * ocean.layout.factor) := by
  have hpos := ocean.layout.exactFactor_pos
  have hmiddle : (ocean.layout.canvasSize : ℝ) / (2 : ℕ) = 200 * ocean.layout.exactFactor := by
    rw [ocean.layout.canvasSize_eq]
    push_cast
    ring
  have hinside : 46 * ocean.layout.factor ≤ (ocean.layout.canvasSize : ℝ) / (2 : ℕ) ∧
      (ocean.layout.canvasSize : ℝ) / (2 : ℕ) ≤
        ocean.layout.canvasSize - 46 * ocean.layout.factor := by
    rw [hmiddle, ocean.layout.canvasSize_eq, ocean.layout.factor_eq]
    constructor
    . linarith
    . linarith
  exact Point.keepsOff_of_inside hinside hinside

end Exact

/-! ### The whole -/

/--
The reef is a closed ring with a free inside, whatever is drawn for its pieces from the ranges that
are asked for. Whoever is on the border of the canvas touches coral, and whoever keeps 46 off it
does not, as at the place where runs start. Whatever trash is spawned can be collected, once it has
grown, from a place that is clear of coral. Generators draw from these ranges.
-/
theorem Reef.closed_and_free [Exact] (layout : Layout) :
    (∀ draws : Nat → Reef.Draw ℝ, (∀ i, (draws i).InRange) →
      let touched (robot : Point ℝ) :=
        Contact.withCoral? robot layout.factor (Reef.laid layout draws)
      (∀ robot, robot.OnBorder layout.canvasSize → (touched robot).isSome = true) ∧
      (∀ robot, robot.KeepsOff layout.canvasSize (46 * layout.factor) → touched robot = none) ∧
      (∀ ocean : Ocean ℝ, ocean.layout = layout → touched ocean.center = none) ∧
      ∀ item : TrashItem ℝ, item.Spawnable layout → ∃ robot, touched robot = none ∧
        ∀ dts : List ℝ, (∀ dt ∈ dts, 0 ≤ dt) → item.targetScale ≤ 4 * dts.sum →
          let grown := dts.foldl TrashItem.tick item
          grown.scale = item.targetScale ∧ grown.Reached robot layout.factor) ∧
    (∀ g, ∃ draws : Nat → Reef.Draw ℝ, (∀ i, (draws i).InRange) ∧
      ((Reef.pieces layout).run g).1 = Reef.laid layout draws) ∧
    ∀ id, Random.Always (TrashItem.fresh layout id) (TrashItem.Spawnable layout) := by
  refine ⟨fun draws hdraws => ?_, ?_, TrashItem.spawnable_fresh layout⟩
  . have hclear (robot : Point ℝ) (hrobot : robot.KeepsOff layout.canvasSize (46 * layout.factor)) :
        Contact.withCoral? robot layout.factor (Reef.laid layout draws) = none :=
      Contact.withCoral?_eq_none_iff.mpr fun _ => Reef.not_overlaps hdraws hrobot
    refine ⟨fun robot hrobot => ?_, hclear, ?_, fun item hitem => ?_⟩
    . obtain ⟨piece, hpiece, hoverlaps⟩ := Reef.exists_overlaps hdraws hrobot
      rw [Option.isSome_iff_ne_none]
      exact fun hnone => Contact.withCoral?_eq_none_iff.mp hnone piece hpiece hoverlaps
    . rintro ocean rfl
      exact hclear _ ocean.keepsOff_center
    . obtain ⟨robot, hrobot, hreached⟩ := hitem.exists_reached
      exact ⟨robot, hclear robot hrobot, hreached⟩
  . intro g
    exact ⟨_, Reef.inRange_drawing.stream g, Reef.run_pieces layout g⟩

theorem Reef.closed_and_free_of_even_reef :
    let _ : Exact :=
      { facing := fun degrees =>
          (Real.sin (degrees * Real.pi / 180), -Real.cos (degrees * Real.pi / 180))
        isFinite := fun _ => true }
    let draws : Nat → Reef.Draw ℝ := fun _ => { inset := 4, radius := 14, color := 0 }
    let touched (robot : Point ℝ) :=
      Contact.withCoral? robot Layout.enlarged.factor (Reef.laid .enlarged draws)
    let item : TrashItem ℝ :=
      { id := 3, position := ⟨60, 540⟩, kind := .bottle, scale := 0, targetScale := 1
        floatOffset := 0, isCollected := false }
    (∀ i, (draws i).InRange) ∧ (touched ⟨600, 0⟩).isSome = true ∧ touched ⟨80, 520⟩ = none ∧
      touched (Ocean.empty .enlarged 7).center = none ∧
      ∃ robot, touched robot = none ∧
        ([1 / 4, 1 / 8].foldl TrashItem.tick item).Reached robot Layout.enlarged.factor := by
  intro trig draws touched item
  have hfactor : (Layout.enlarged.factor : ℝ) = 3 / 2 := Layout.enlarged.factor_eq
  have hsize : (Layout.enlarged.canvasSize : ℝ) = 600 := by
    rw [Layout.canvasSize_eq]
    norm_num [Layout.exactFactor]
  have hdraws : ∀ i, (draws i).InRange := fun _ => ⟨by norm_num [draws], by norm_num [draws]⟩
  have hcorner : Point.OnBorder ⟨600, 0⟩ (Layout.enlarged.canvasSize : ℝ) := by
    rw [hsize]
    exact ⟨by norm_num, by norm_num, .inr (.inl rfl)⟩
  have hinside : Point.KeepsOff ⟨80, 520⟩ (Layout.enlarged.canvasSize : ℝ)
      (46 * Layout.enlarged.factor) := by
    rw [hsize, hfactor]
    exact Point.keepsOff_of_inside (by norm_num) (by norm_num)
  have hitem : item.Spawnable .enlarged := by
    constructor <;> norm_num [item, hsize, hfactor]
  have hpositive : ∀ dt ∈ [1 / 4, 1 / 8], (0 : ℝ) ≤ dt := by norm_num
  have hgrown : item.targetScale ≤ 4 * [1 / 4, 1 / 8].sum := by norm_num [item]
  obtain ⟨hclosed, hfree, hcenter, hgot⟩ := (closed_and_free .enlarged).1 draws hdraws
  obtain ⟨robot, hclear, hreached⟩ := hgot item hitem
  exact ⟨hdraws, hclosed _ hcorner, hfree _ hinside, hcenter _ rfl, robot, hclear,
    (hreached [1 / 4, 1 / 8] hpositive hgrown).2⟩

end ReefRover
