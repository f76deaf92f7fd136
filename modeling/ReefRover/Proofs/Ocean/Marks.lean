import ReefRover.Ocean.Observe
import ReefRover.Ocean.Tick
import ReefRover.Proofs.Ocean.Laid

/-!
This module contains what happens to the trash as far as the score goes: which pieces there are, in
what order, and which of them are collected. Time changes none of that unless the spawner adds a
piece, and the robot collects one piece after the other.
-/

namespace ReefRover

variable {R : Type}

namespace Ocean

/-- The ids of the trash in the order of the list, with what is collected marked. -/
def marks (ocean : Ocean R) : List (UInt32 × Bool) :=
  ocean.trash.map fun item => (item.id, item.isCollected)

theorem map_id_trash (ocean : Ocean R) :
    ocean.trash.map TrashItem.id = ocean.marks.map Prod.fst := by
  unfold marks
  rw [List.map_map]
  rfl

theorem countP_collected (ocean : Ocean R) :
    ocean.trash.countP TrashItem.isCollected = ocean.marks.countP Prod.snd := by
  unfold marks
  rw [List.countP_map]
  rfl

theorem liveTrash_eq (ocean : Ocean R) :
    ocean.liveTrash = ocean.marks.countP fun mark => !mark.2 := by
  unfold liveTrash marks
  rw [List.countP_map]
  rfl

theorem trash_eq_nil_iff (ocean : Ocean R) : ocean.trash = [] ↔ ocean.marks = [] := by
  unfold marks
  rw [List.map_eq_nil_iff]

structure Ages (ocean ocean' : Ocean R) : Prop where
  layout_eq : ocean'.layout = ocean.layout
  nextId_eq : ocean'.nextId = ocean.nextId
  marks_eq : ocean'.marks = ocean.marks

structure Spawns (ocean : Ocean R) (id : UInt32) (ocean' : Ocean R) : Prop where
  id_eq : id = ocean.nextId
  layout_eq : ocean'.layout = ocean.layout
  nextId_eq : ocean'.nextId = ocean.nextId + 1
  marks_eq : ocean'.marks = ocean.marks ++ [(id, false)]

structure Collects (ocean : Ocean R) (id : UInt32) (ocean' : Ocean R) : Prop where
  layout_eq : ocean'.layout = ocean.layout
  nextId_eq : ocean'.nextId = ocean.nextId
  marks_eq : ∃ left right,
    ocean.marks = left ++ (id, false) :: right ∧ ocean'.marks = left ++ (id, true) :: right

namespace Collects

variable {ocean ocean' : Ocean R} {id : UInt32}

theorem ids_eq (h : ocean.Collects id ocean') :
    ocean'.marks.map Prod.fst = ocean.marks.map Prod.fst := by
  obtain ⟨left, right, hmarks, hmarks'⟩ := h.marks_eq
  rw [hmarks, hmarks', List.map_append, List.map_append]
  rfl

theorem countP_collected (h : ocean.Collects id ocean') :
    ocean'.marks.countP Prod.snd = ocean.marks.countP Prod.snd + 1 := by
  obtain ⟨left, right, hmarks, hmarks'⟩ := h.marks_eq
  rw [hmarks, hmarks', List.countP_append, List.countP_append, List.countP_cons_of_pos rfl,
    List.countP_cons_of_neg Bool.false_ne_true, Nat.add_assoc]

theorem countP_live (h : ocean.Collects id ocean') :
    (ocean'.marks.countP fun mark => !mark.2) + 1 = ocean.marks.countP fun mark => !mark.2 := by
  obtain ⟨left, right, hmarks, hmarks'⟩ := h.marks_eq
  rw [hmarks, hmarks', List.countP_append, List.countP_append,
    List.countP_cons_of_neg Bool.false_ne_true, List.countP_cons_of_pos rfl, Nat.add_assoc]

end Collects

end Ocean

namespace TrashItem

variable [Scalar R]

theorem not_collected_of_isInReach {robot : Point R} {factor : R} {item : TrashItem R}
    (h : item.isInReach robot factor = true) : item.isCollected = false := by
  cases hcollected : item.isCollected with
  | false => rfl
  | true =>
    unfold isInReach Contact.ofTrash? at h
    rw [hcollected] at h
    cases h

theorem tick_mark (item : TrashItem R) (dt : R) :
    (item.tick dt).id = item.id ∧ (item.tick dt).isCollected = item.isCollected := by
  unfold tick
  split
  . exact ⟨rfl, rfl⟩
  . exact ⟨rfl, rfl⟩

theorem fresh_mark (layout : Layout) (id : UInt32) :
    Random.Always (fresh layout id) fun item : TrashItem R =>
      item.id = id ∧ item.isCollected = false := by
  unfold fresh
  -- one draw after the other, and none of them matters
  apply Random.always_bind
  intro x
  apply Random.always_bind
  intro y
  apply Random.always_bind
  intro kind
  apply Random.always_bind
  intro targetScale
  apply Random.always_bind
  intro floatOffset
  exact Random.always_pure ⟨rfl, rfl⟩

theorem position_fresh (layout : Layout) (id : UInt32) (g : Generator) :
    let margin : R := Tuning.spawnMargin * layout.factor
    let far := layout.canvasSize - margin
    ((fresh layout id).run g).1.position =
      { x := ((Random.range margin far).run g).1
        y := ((Random.range margin far).run g.advance).1 } := by
  intro margin far
  unfold fresh
  rw [Random.run_bind, Random.run_bind, Random.run_bind, Random.run_bind, Random.run_bind,
    Random.run_pure, Random.run_range_snd]

end TrashItem

namespace Ocean

variable [Scalar R]

theorem ages_tick_items (ocean : Ocean R) (dt timer : R) :
    ocean.Ages { ocean with trash := ocean.trash.map (·.tick dt), spawnTimer := timer } where
  layout_eq := rfl
  nextId_eq := rfl
  marks_eq := by
    unfold marks
    rw [List.map_map]
    apply List.map_congr_left
    intro item _
    obtain ⟨hid, hcollected⟩ := item.tick_mark dt
    exact Prod.ext hid hcollected

theorem spawns_spawn (ocean : Ocean R) : ocean.Spawns ocean.spawn.1 ocean.spawn.2 where
  id_eq := rfl
  layout_eq := rfl
  nextId_eq := rfl
  marks_eq := by
    obtain ⟨hid, hcollected⟩ :=
      TrashItem.fresh_mark (R := R) ocean.layout ocean.nextId ocean.random
    unfold marks spawn takeId
    dsimp only
    rw [List.map_append, List.map_singleton, hid, hcollected]

omit [Scalar R] in
theorem collects_of_trash_eq {ocean : Ocean R} {item : TrashItem R}
    {kept items : List (TrashItem R)} (htrash : ocean.trash = kept ++ item :: items)
    (hitem : item.isCollected = false) :
    ocean.Collects item.id
      { ocean with trash := kept ++ { item with isCollected := true } :: items } where
  layout_eq := rfl
  nextId_eq := rfl
  marks_eq := by
    refine ⟨kept.map fun item => (item.id, item.isCollected),
      items.map fun item => (item.id, item.isCollected), ?_, ?_⟩
    . unfold marks
      rw [htrash, List.map_append, List.map_cons, hitem]
    . unfold marks
      rw [List.map_append, List.map_cons]

variable {ocean ocean' : Ocean R} {settings : Settings R} {spawning : Bool} {dt : R}

theorem trySpawn_of_none {most : Nat} (h : ocean.trySpawn most = (none, ocean')) :
    ocean' = ocean := by
  unfold trySpawn at h
  split at h
  . cases h
  . cases h
    rfl

theorem trySpawn_of_some {most : Nat} {id : UInt32}
    (h : ocean.trySpawn most = (some id, ocean')) :
    ocean.liveTrash < most ∧ ocean.Spawns id ocean' := by
  unfold trySpawn at h
  split at h
  . next hlive =>
    cases h
    exact ⟨hlive, ocean.spawns_spawn⟩
  . cases h

theorem ages_of_tick (h : ocean.tick settings spawning dt = (none, ocean')) :
    ocean.Ages ocean' := by
  unfold tick at h
  dsimp only at h
  split at h
  . cases h
    exact ocean.ages_tick_items dt ocean.spawnTimer
  . split at h
    . rw [trySpawn_of_none h]
      exact ocean.ages_tick_items dt _
    . cases h
      exact ocean.ages_tick_items dt _

theorem spawns_of_tick {id : UInt32} (h : ocean.tick settings spawning dt = (some id, ocean')) :
    spawning = true ∧ ∃ aged : Ocean R, ocean.Ages aged ∧ aged.liveTrash < settings.maxTrash ∧
      aged.Spawns id ocean' := by
  unfold tick at h
  dsimp only at h
  split at h
  . cases h
  . next hspawning =>
    split at h
    . obtain ⟨hlive, hspawns⟩ := trySpawn_of_some h
      exact ⟨by simpa using hspawning, _, ocean.ages_tick_items dt _, hlive, hspawns⟩
    . cases h

end Ocean

end ReefRover
