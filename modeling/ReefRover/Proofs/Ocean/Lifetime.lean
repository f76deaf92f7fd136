import ReefRover.Proofs.Ocean.Cadence
import ReefRover.Proofs.Ocean.Growth

/-!
This module contains the life of a piece of trash in exact arithmetic. It comes up without a size,
grows to its target scale wherever it is, is collected at some time, and is left alone from then on.
-/

namespace ReefRover

namespace TrashItem

variable {item item' item'' : TrashItem ℝ} {layout : Layout} {robot : Point ℝ} {factor dt : ℝ}

structure Becomes (item item' : TrashItem ℝ) : Prop where
  id_eq : item'.id = item.id
  position_eq : item'.position = item.position
  kind_eq : item'.kind = item.kind
  targetScale_eq : item'.targetScale = item.targetScale
  scale_le : item.scale ≤ item'.scale
  eq_of_collected : item.isCollected = true → item' = item

theorem Becomes.refl (item : TrashItem ℝ) : item.Becomes item :=
  ⟨rfl, rfl, rfl, rfl, le_rfl, fun _ => rfl⟩

theorem Becomes.trans (h : item.Becomes item') (h' : item'.Becomes item'') :
    item.Becomes item'' where
  id_eq := h'.id_eq.trans h.id_eq
  position_eq := h'.position_eq.trans h.position_eq
  kind_eq := h'.kind_eq.trans h.kind_eq
  targetScale_eq := h'.targetScale_eq.trans h.targetScale_eq
  scale_le := h.scale_le.trans h'.scale_le
  eq_of_collected := by
    intro hcollected
    obtain rfl := h.eq_of_collected hcollected
    exact h'.eq_of_collected hcollected

variable [Exact]

/-- The scale is one that the item has on its way to its target scale. -/
structure Grown (item : TrashItem ℝ) : Prop where
  nonneg : 0 ≤ item.scale
  le_target : item.scale ≤ item.targetScale

theorem Spawnable.grown (h : item.Spawnable layout) : item.Grown where
  nonneg := h.scale.ge
  le_target := by
    rw [h.scale]
    linarith [h.targetScale.1]

theorem becomes_tick (item : TrashItem ℝ) (hdt : 0 ≤ dt) : item.Becomes (item.tick dt) := by
  have hgrowth : (Tuning.trashGrowth : ℝ) = 4 := Nat.cast_ofNat
  unfold TrashItem.tick
  split
  . exact .refl item
  . next huncollected =>
    refine ⟨rfl, rfl, rfl, rfl, ?_, fun hcollected => absurd hcollected huncollected⟩
    dsimp only
    split
    . next hlt =>
      rw [Exact.lesser_eq_min, hgrowth]
      exact le_min (by linarith) hlt.le
    . exact le_rfl

theorem Grown.tick (h : item.Grown) (hdt : 0 ≤ dt) : (item.tick dt).Grown where
  nonneg := h.nonneg.trans (item.becomes_tick hdt).scale_le
  le_target := by
    unfold TrashItem.tick
    split
    . exact h.le_target
    . dsimp only
      split
      . rw [Exact.lesser_eq_min]
        exact min_le_right _ _
      . exact h.le_target

theorem becomes_gathered (item : TrashItem ℝ) : item.Becomes (item.gathered robot factor) := by
  unfold gathered
  split
  . next hreached =>
    refine ⟨rfl, rfl, rfl, rfl, le_rfl, fun hcollected => ?_⟩
    rw [hreached.uncollected] at hcollected
    cases hcollected
  . exact .refl item

theorem scale_gathered (item : TrashItem ℝ) :
    (item.gathered robot factor).scale = item.scale := by
  unfold gathered
  split
  . rfl
  . rfl

theorem Grown.gathered (h : item.Grown) : (item.gathered robot factor).Grown := by
  unfold TrashItem.gathered
  split
  . exact ⟨h.nonneg, h.le_target⟩
  . exact h

theorem Spawnable.near_of_gathered (h : item.Spawnable layout)
    (hcollected : (item.gathered robot factor).isCollected = true) :
    robot.distance item.position < Contact.robotRadius factor := by
  unfold TrashItem.gathered at hcollected
  split at hcollected
  . next hreached =>
    have hnear := hreached.near
    unfold Contact.trashRadius at hnear
    rw [h.scale, mul_zero, add_zero] at hnear
    exact hnear
  . rw [h.uncollected] at hcollected
    cases hcollected

theorem Grown.trashRadius_le (h : item.Grown) (layout : Layout) :
    Contact.trashRadius item layout.factor ≤
      Tuning.trashRadius * layout.factor * item.targetScale := by
  have hpos := layout.exactFactor_pos
  have hradius : (Tuning.trashRadius : ℝ) = 12 := Nat.cast_ofNat
  unfold Contact.trashRadius
  apply mul_le_mul_of_nonneg_left h.le_target
  rw [hradius, layout.factor_eq]
  positivity

theorem position_fresh_normal (id : UInt32) (g : Generator) :
    let part (g : Generator) : ℝ := ((Random.word.run g).1 >>> 9).toNat / (Nat.pow 2 23 : ℕ)
    ((fresh .normal id).run g).1.position =
      { x := part g * 320 + 40, y := part g.advance * 320 + 40 } := by
  intro part
  have hmargin : (Tuning.spawnMargin * Layout.normal.factor : ℝ) = 40 := by
    rw [Layout.factor_eq, Layout.exactFactor, mul_one]
    exact Nat.cast_ofNat
  have hwidth : (Layout.normal.canvasSize : ℝ) - 40 - 40 = 320 := by
    rw [Layout.canvasSize_eq, Layout.exactFactor]
    norm_num
  rw [position_fresh, Random.run_range, Random.run_range, Random.run_unit, Random.run_unit,
    hmargin, hwidth]
  rfl

end TrashItem

namespace Ocean

open TrashItem

variable [Exact]

theorem exists_spawned (ocean : Ocean ℝ) (settings : Settings ℝ) (spawning : Bool) (dt : ℝ) :
    ∃ spawned, (ocean.tick settings spawning dt).2.trash = ocean.trash.map (·.tick dt) ++ spawned ∧
      spawned.length ≤ 1 ∧ ∀ item ∈ spawned, item.Spawnable ocean.layout := by
  cases hattempts : ocean.attempts spawning dt with
  | false =>
    rw [tick_of_not_attempts hattempts]
    exact ⟨[], (List.append_nil _).symm, Nat.zero_le _, nofun⟩
  | true =>
    rw [tick_of_attempts hattempts]
    unfold trySpawn
    split
    . refine ⟨[_], rfl, le_rfl, ?_⟩
      intro item hitem
      rw [List.mem_singleton.mp hitem]
      exact spawnable_fresh _ _ _
    . exact ⟨[], (List.append_nil _).symm, Nat.zero_le _, nofun⟩

end Ocean

end ReefRover
