import Mathlib.Data.List.Nodup
import ReefRover.Proofs.Ocean.Marks
import ReefRover.Proofs.Run.Journal

/-!
This module contains what the events of a run look like, while it goes on and when it is over, and
how they tell which trash there is.
-/

namespace ReefRover

variable {R : Type}

namespace GameEvent

def spawns (events : List (GameEvent R)) : List UInt32 :=
  events.filterMap spawned?

def pickups (events : List (GameEvent R)) : List Pickup :=
  events.filterMap pickup?

def picked (events : List (GameEvent R)) : List UInt32 :=
  (pickups events).map Pickup.id

def marks (events : List (GameEvent R)) : List (UInt32 × Bool) :=
  (spawns events).map fun id => (id, decide (id ∈ picked events))

theorem mem_spawns_iff {events : List (GameEvent R)} {id : UInt32} :
    id ∈ spawns events ↔ .trashSpawned id ∈ events := by
  unfold spawns
  rw [List.mem_filterMap]
  constructor
  . rintro ⟨e, he, hsome⟩
    cases e with
    | trashSpawned =>
      cases hsome
      exact he
    | trashCollected | coralHit | runFinished => cases hsome
  . intro he
    exact ⟨.trashSpawned id, he, rfl⟩

variable (events : List (GameEvent R)) (id total : UInt32)

theorem spawns_spawn : spawns (events ++ [.trashSpawned id]) = spawns events ++ [id] := by
  unfold spawns
  rw [List.filterMap_append]
  rfl

theorem spawns_collect : spawns (events ++ [.trashCollected id total]) = spawns events := by
  unfold spawns
  rw [List.filterMap_append]
  exact List.append_nil _

theorem pickups_spawn : pickups (events ++ [.trashSpawned id]) = pickups events := by
  unfold pickups
  rw [List.filterMap_append]
  exact List.append_nil _

theorem pickups_collect :
    pickups (events ++ [.trashCollected id total]) = pickups events ++ [⟨id, total⟩] := by
  unfold pickups
  rw [List.filterMap_append]
  rfl

theorem picked_spawn : picked (events ++ [.trashSpawned id]) = picked events := by
  unfold picked
  rw [pickups_spawn]

theorem picked_collect :
    picked (events ++ [.trashCollected id total]) = picked events ++ [id] := by
  unfold picked
  rw [pickups_collect, List.map_append]
  rfl

variable {events id}

theorem marks_spawn (hnew : id ∉ picked events) :
    marks (events ++ [.trashSpawned id]) = marks events ++ [(id, false)] := by
  unfold marks
  rw [spawns_spawn, picked_spawn, List.map_append, List.map_singleton, decide_eq_false hnew]

theorem not_mem_picked {left right : List (UInt32 × Bool)}
    (hmarks : marks events = left ++ (id, false) :: right) :
    id ∈ spawns events ∧ id ∉ picked events := by
  have hmem : (id, false) ∈ marks events := by
    rw [hmarks]
    exact List.mem_append_right _ List.mem_cons_self
  obtain ⟨id', hid, heq⟩ := List.mem_map.mp hmem
  obtain ⟨rfl, hpicked⟩ := Prod.mk.inj heq
  exact ⟨hid, of_decide_eq_false hpicked⟩

theorem marks_collect {left right : List (UInt32 × Bool)} (hnodup : (spawns events).Nodup)
    (hmarks : marks events = left ++ (id, false) :: right) :
    marks (events ++ [.trashCollected id total]) = left ++ (id, true) :: right := by
  unfold marks at hmarks ⊢
  obtain ⟨before, rest, hspawns, hleft, hrest⟩ := List.map_eq_append_iff.mp hmarks
  obtain ⟨id', after, rfl, hid, hright⟩ := List.map_eq_cons_iff.mp hrest
  obtain ⟨rfl, -⟩ := Prod.mk.inj hid
  rw [hspawns, List.nodup_middle, List.nodup_cons] at hnodup
  -- the ids are distinct, so only the mark of this one changes
  have hsame : ∀ i ∈ before ++ after,
      (i, decide (i ∈ picked events ++ [id'])) = (i, decide (i ∈ picked events)) := by
    intro i hi
    have hne : i ≠ id' := fun heq => hnodup.1 (heq ▸ hi)
    simp [hne]
  have hbefore := List.map_congr_left fun i hi => hsame i (List.mem_append_left _ hi)
  have hafter := List.map_congr_left fun i hi => hsame i (List.mem_append_right _ hi)
  rw [spawns_collect, picked_collect, hspawns, List.map_append, List.map_cons, hbefore, hafter,
    hleft, hright]
  simp

end GameEvent

open GameEvent

/--
The events of a run that goes on: trash is spawned and collected, the totals count up from one, and
each piece is collected at most once and after it was spawned.
-/
structure Play (events : List (GameEvent R)) : Prop where
  only_trash : ∀ e ∈ events, e.isTrash = true
  totals : (pickups events).map (fun pickup => pickup.total.toNat) =
    List.range' 1 (pickups events).length
  picked_nodup : (picked events).Nodup
  spawned_first : ∀ before id total after,
    events = before ++ .trashCollected id total :: after → .trashSpawned id ∈ before

/-- The events of a run that is over. Its report counts the pickups. -/
inductive Ended : List (GameEvent R) → Prop where
  | byCollision {events : List (GameEvent R)} (index : Nat) {total : UInt32} (h : Play events)
      (htotal : total.toNat = (pickups events).length) :
    Ended (events ++
      [.coralHit index, .runFinished { outcome := .collision, trashCollected := total }])
  | otherwise {events : List (GameEvent R)} {report : RunReport R} (h : Play events)
      (houtcome : report.outcome ≠ .collision)
      (htotal : report.trashCollected.toNat = (pickups events).length) :
    Ended (events ++ [.runFinished report])

namespace Play

variable {events : List (GameEvent R)} {id total : UInt32}

theorem nil : Play ([] : List (GameEvent R)) where
  only_trash := nofun
  totals := rfl
  picked_nodup := List.nodup_nil
  spawned_first before id total after h := by
    cases before with
    | nil => cases h
    | cons => cases h

theorem only_trash_concat (h : Play events) {e : GameEvent R} (he : e.isTrash = true) :
    ∀ e' ∈ events ++ [e], e'.isTrash = true := by
  intro e' hmem
  rcases List.mem_append.mp hmem with hmem | hmem
  . exact h.only_trash e' hmem
  . rw [List.mem_singleton.mp hmem]
    exact he

theorem mem_spawns (h : Play events) (hid : id ∈ picked events) : id ∈ spawns events := by
  unfold picked pickups at hid
  rw [List.mem_map] at hid
  obtain ⟨pickup, hpickup, rfl⟩ := hid
  obtain ⟨e, he, hsome⟩ := List.mem_filterMap.mp hpickup
  cases e with
  | trashCollected id total =>
    cases hsome
    obtain ⟨before, after, rfl⟩ := List.append_of_mem he
    have hspawned := h.spawned_first before id total after rfl
    exact mem_spawns_iff.mpr (List.mem_append_left _ hspawned)
  | trashSpawned | coralHit | runFinished => cases hsome

theorem spawned_first_concat (h : Play events) {e : GameEvent R}
    (he : ∀ id total, e = .trashCollected id total → .trashSpawned id ∈ events)
    (before : List (GameEvent R)) (id total : UInt32) (after : List (GameEvent R))
    (heq : events ++ [e] = before ++ .trashCollected id total :: after) :
    .trashSpawned id ∈ before := by
  rcases after.eq_nil_or_concat with rfl | ⟨after, last, rfl⟩
  . obtain ⟨rfl, hlast⟩ := List.append_inj' heq rfl
    exact he id total (List.singleton_inj.mp hlast)
  . rw [List.concat_eq_append, ← List.cons_append, ← List.append_assoc] at heq
    obtain ⟨hinit, -⟩ := List.append_inj' heq rfl
    exact h.spawned_first before id total after hinit

theorem spawn (h : Play events) (id : UInt32) : Play (events ++ [.trashSpawned id]) where
  only_trash := h.only_trash_concat rfl
  totals := by
    rw [pickups_spawn]
    exact h.totals
  picked_nodup := by
    rw [picked_spawn]
    exact h.picked_nodup
  spawned_first := h.spawned_first_concat nofun

theorem collect (h : Play events) (hspawned : id ∈ spawns events) (hnew : id ∉ picked events)
    (htotal : total.toNat = (pickups events).length + 1) :
    Play (events ++ [.trashCollected id total]) where
  only_trash := h.only_trash_concat rfl
  totals := by
    rw [pickups_collect, List.map_append, List.length_append, h.totals, List.map_singleton, htotal,
      List.length_singleton, List.range'_1_concat, Nat.add_comm 1]
  picked_nodup := by
    rw [picked_collect, ← List.concat_eq_append]
    exact List.Nodup.concat hnew h.picked_nodup
  spawned_first := by
    apply h.spawned_first_concat
    intro id' total' heq
    cases heq
    exact mem_spawns_iff.mp hspawned

end Play

end ReefRover
