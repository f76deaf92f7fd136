import Mathlib
import ReefRover.Ocean.Tick
import ReefRover.Proofs.Ocean.Gathering
import ReefRover.Proofs.Ocean.Plane

/-!
This module contains the growing of trash in exact arithmetic, and the proof that all trash can be
got from a place off the border. It is at most 6 away from such a place in either direction, which
is less than the 29 that the robot and the grown item reach together at least.
-/

namespace ReefRover

variable [Exact]

namespace TrashItem

variable {layout : Layout} {item : TrashItem ℝ}

structure Spawnable (layout : Layout) (item : TrashItem ℝ) : Prop where
  x : 40 * layout.factor ≤ item.position.x ∧
    item.position.x ≤ layout.canvasSize - 40 * layout.factor
  y : 40 * layout.factor ≤ item.position.y ∧
    item.position.y ≤ layout.canvasSize - 40 * layout.factor
  targetScale : 4 / 5 ≤ item.targetScale ∧ item.targetScale ≤ 6 / 5
  scale : item.scale = 0
  uncollected : item.isCollected = false

structure Aged (item : TrashItem ℝ) (time : ℝ) (aged : TrashItem ℝ) : Prop where
  position_eq : aged.position = item.position
  targetScale_eq : aged.targetScale = item.targetScale
  uncollected : aged.isCollected = false
  scale_eq : aged.scale = min (4 * time) item.targetScale

theorem Spawnable.aged (h : item.Spawnable layout) : item.Aged 0 item where
  position_eq := rfl
  targetScale_eq := rfl
  uncollected := h.uncollected
  scale_eq := by
    have hle := h.targetScale.1
    rw [h.scale, mul_zero, min_eq_left (by linarith)]

theorem Aged.tick {time dt : ℝ} {aged : TrashItem ℝ} (h : item.Aged time aged) (hdt : 0 ≤ dt) :
    item.Aged (time + dt) (aged.tick dt) := by
  have hgrowth : (Tuning.trashGrowth : ℝ) = 4 := Nat.cast_ofNat
  unfold TrashItem.tick
  rw [h.uncollected, if_neg Bool.false_ne_true]
  refine ⟨h.position_eq, h.targetScale_eq, rfl, ?_⟩
  dsimp only
  rw [h.targetScale_eq, h.scale_eq, hgrowth, Exact.lesser_eq_min, mul_add]
  split
  . next hlt =>
    have hless := (min_lt_iff.mp hlt).resolve_right (lt_irrefl _)
    rw [show min (4 * time) item.targetScale = 4 * time from min_eq_left hless.le]
  . next hnot =>
    have hle := (le_min_iff.mp (not_lt.mp hnot)).1
    rw [min_eq_right hle, min_eq_right (by linarith)]

theorem Aged.foldl_tick {time : ℝ} {aged : TrashItem ℝ} (h : item.Aged time aged) {dts : List ℝ}
    (hdts : ∀ dt ∈ dts, 0 ≤ dt) : item.Aged (time + dts.sum) (dts.foldl TrashItem.tick aged) := by
  induction dts generalizing time aged with
  | nil =>
    rw [List.sum_nil, add_zero]
    exact h
  | cons dt dts ih =>
    rw [List.sum_cons, ← add_assoc]
    rw [List.forall_mem_cons] at hdts
    exact ih (h.tick hdts.1) hdts.2

theorem spawnable_fresh (layout : Layout) (id : UInt32) :
    Random.Always (fresh layout id) (Spawnable layout) := by
  have hpos := layout.exactFactor_pos
  have hmargin : (Tuning.spawnMargin : ℝ) = 40 := Nat.cast_ofNat
  have hsmallest : (Tuning.smallestTrash : ℝ) = 4 / 5 := by
    change ((4 : ℕ) : ℝ) / (5 : ℕ) = 4 / 5
    norm_num
  have hlargest : (Tuning.largestTrash : ℝ) = 6 / 5 := by
    change ((6 : ℕ) : ℝ) / (5 : ℕ) = 6 / 5
    norm_num
  have hsize : 40 * (layout.factor : ℝ) ≤ layout.canvasSize - 40 * layout.factor := by
    rw [layout.canvasSize_eq, layout.factor_eq]
    linarith
  have hplace := Random.mem_range hsize
  have hscale := Random.mem_range (by norm_num : (4 / 5 : ℝ) ≤ 6 / 5)
  unfold fresh
  rw [hmargin, hsmallest, hlargest]
  refine Random.Always.bind hplace fun x hx => ?_
  refine Random.Always.bind hplace fun y hy => ?_
  refine Random.always_bind fun kind => ?_
  refine Random.Always.bind hscale fun targetScale htargetScale => ?_
  refine Random.always_bind fun floatOffset => ?_
  exact Random.always_pure ⟨hx, hy, htargetScale, Nat.cast_zero, rfl⟩

theorem Spawnable.exists_reached (h : item.Spawnable layout) :
    ∃ robot : Point ℝ, robot.KeepsOff layout.canvasSize (46 * layout.factor) ∧
      ∀ dts : List ℝ, (∀ dt ∈ dts, 0 ≤ dt) → item.targetScale ≤ 4 * dts.sum →
        (dts.foldl TrashItem.tick item).scale = item.targetScale ∧
          (dts.foldl TrashItem.tick item).Reached robot layout.factor := by
  have hpos := layout.exactFactor_pos
  have hsize : 92 * (layout.factor : ℝ) ≤ layout.canvasSize := by
    rw [layout.canvasSize_eq, layout.factor_eq]
    linarith
  have hfactor : 0 ≤ (layout.factor : ℝ) := layout.factor_eq.symm ▸ hpos.le
  obtain ⟨x, hx, hnearx⟩ := exists_off_border hfactor hsize h.x
  obtain ⟨y, hy, hneary⟩ := exists_off_border hfactor hsize h.y
  refine ⟨⟨x, y⟩, Point.keepsOff_of_inside hx hy, fun dts hdts htime => ?_⟩
  have haged := h.aged.foldl_tick hdts
  have hscale : (dts.foldl TrashItem.tick item).scale = item.targetScale := by
    rw [haged.scale_eq, zero_add, min_eq_right htime]
  refine ⟨hscale, haged.uncollected, ?_⟩
  have hdistance : Point.distance ⟨x, y⟩ item.position ≤ 9 * layout.factor :=
    Point.distance_le hnearx hneary (by positivity) (by nlinarith [sq_nonneg (layout.factor : ℝ)])
  have hgrown := mul_le_mul_of_nonneg_left h.targetScale.1 hpos.le
  rw [haged.position_eq, layout.robotRadius_eq, layout.trashRadius_eq, hscale]
  refine hdistance.trans_lt ?_
  rw [layout.factor_eq]
  linarith

end TrashItem

end ReefRover
