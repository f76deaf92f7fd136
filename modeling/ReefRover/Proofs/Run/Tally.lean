import ReefRover.Proofs.Run.Lifecycle
import ReefRover.Scalar.Single

/-!
This module contains the bookkeeping of trash: ids are given out one by one and never again, the
score counts what is collected, and the spawner keeps to its cap. All of this needs ids that do not
run out.
-/

namespace ReefRover

variable {R : Type}

theorem toNat_succ {n : UInt32} (h : n.toNat + 1 < 2 ^ 32) :
    (n + 1).toNat = n.toNat + 1 :=
  (UInt32.toNat_add n 1).trans (Nat.mod_eq_of_lt h)

namespace Controller

variable {c c' : Controller R} {news : List (GameEvent R)}

theorem Brings.spawned_eq (h : c.Brings news c') :
    c'.spawned = c.spawned ++ news.filterMap GameEvent.spawned? := by
  unfold spawned
  rw [h.log_eq, List.filterMap_append]

theorem spawned_note (c : Controller R) (notice : Notice R) :
    (c.note notice).spawned = c.spawned := by
  unfold spawned
  rw [log_note]

structure Tallied (c : Controller R) : Prop where
  spawned_eq : c.spawned.map UInt32.toNat = List.range' 1 c.spawned.length
  nextId_eq : c.ocean.nextId.toNat = c.spawned.length + 1
  trash_suffix : c.ocean.marks.map Prod.fst <:+ c.spawned
  score_eq : c.game.trashCollected.toNat = c.ocean.marks.countP Prod.snd
  live_le : c.ocean.marks.countP (fun mark => !mark.2) ≤ c.settings.maxTrash

namespace Tallied

theorem of_eq (h : c.Tallied) (hspawned : c'.spawned = c.spawned)
    (hnextId : c'.ocean.nextId = c.ocean.nextId) (hmarks : c'.ocean.marks = c.ocean.marks)
    (hscore : c'.game.trashCollected = c.game.trashCollected)
    (hmax : c'.settings.maxTrash = c.settings.maxTrash) : c'.Tallied where
  spawned_eq := by
    rw [hspawned]
    exact h.spawned_eq
  nextId_eq := by
    rw [hnextId, hspawned]
    exact h.nextId_eq
  trash_suffix := by
    rw [hmarks, hspawned]
    exact h.trash_suffix
  score_eq := by
    rw [hscore, hmarks]
    exact h.score_eq
  live_le := by
    rw [hmarks, hmax]
    exact h.live_le

theorem of_empty (h : c.Tallied) (hspawned : c'.spawned = c.spawned)
    (hnextId : c'.ocean.nextId = c.ocean.nextId) (hempty : c'.ocean.trash = [])
    (hscore : c'.game.trashCollected = 0) : c'.Tallied := by
  have hmarks := (Ocean.trash_eq_nil_iff _).mp hempty
  exact
    { spawned_eq := by
        rw [hspawned]
        exact h.spawned_eq
      nextId_eq := by
        rw [hnextId, hspawned]
        exact h.nextId_eq
      trash_suffix := by
        rw [hmarks]
        exact List.nil_suffix
      score_eq := by
        rw [hscore, hmarks]
        rfl
      live_le := by
        rw [hmarks]
        exact Nat.zero_le _ }

theorem finish (h : c.Tallied) (hrun : c.run.isSome = true) (outcome : RunOutcome R) :
    (c.finish outcome).Tallied := by
  have hspawned := (brings_finish hrun outcome).spawned_eq
  rw [List.filterMap_cons_none rfl, List.filterMap_nil, List.append_nil] at hspawned
  have hscore : (c.finish outcome).game.trashCollected = c.game.trashCollected := by
    rw [finish_eq hrun]
    exact c.trashCollected_ended outcome
  have hocean : (c.finish outcome).ocean = c.ocean := by
    rw [finish_eq hrun]
    rfl
  have hsettings : (c.finish outcome).settings = c.settings := by
    rw [finish_eq hrun]
    rfl
  exact h.of_eq hspawned (by rw [hocean]) (by rw [hocean]) hscore (by rw [hsettings])

theorem spawns (h : c.Tallied) {id : UInt32} {ocean : Ocean R} (hspawns : c.ocean.Spawns id ocean)
    (hlive : c.ocean.liveTrash < c.settings.maxTrash) (hbound : c.spawned.length + 1 < 2 ^ 32 - 1) :
    ({ c with ocean }.emit (.trashSpawned id)).Tallied := by
  have hspawned : ({ c with ocean }.emit (.trashSpawned id)).spawned = c.spawned ++ [id] :=
    (c.brings_spawn id ocean).spawned_eq
  have hid : id.toNat = c.spawned.length + 1 := by
    rw [hspawns.id_eq]
    exact h.nextId_eq
  exact
    { spawned_eq := by
        rw [hspawned, List.map_append, List.length_append, h.spawned_eq, List.map_singleton, hid,
          List.length_singleton, List.range'_1_concat, Nat.add_comm 1]
      nextId_eq := by
        change ocean.nextId.toNat = _
        have hfits : c.ocean.nextId.toNat + 1 < 2 ^ 32 := by
          rw [h.nextId_eq]
          omega
        rw [hspawned, hspawns.nextId_eq, toNat_succ hfits, h.nextId_eq, List.length_append]
        rfl
      trash_suffix := by
        change ocean.marks.map Prod.fst <:+ _
        rw [hspawned, hspawns.marks_eq, List.map_append]
        obtain ⟨gone, hgone⟩ := h.trash_suffix
        exact ⟨gone, by rw [← hgone, List.append_assoc]; rfl⟩
      score_eq := by
        change _ = ocean.marks.countP Prod.snd
        rw [hspawns.marks_eq, List.countP_append]
        exact h.score_eq
      live_le := by
        change ocean.marks.countP _ ≤ _
        rw [Ocean.liveTrash_eq] at hlive
        rw [hspawns.marks_eq, List.countP_append]
        exact hlive }

theorem score_le (h : c.Tallied) : c.game.trashCollected.toNat ≤ c.spawned.length := by
  rw [h.score_eq]
  have hlength := h.trash_suffix.length_le
  rw [List.length_map] at hlength
  exact Nat.le_trans List.countP_le_length hlength

theorem collects (h : c.Tallied) (hrun : c.run.isSome = true) {id : UInt32}
    {trash : List (TrashItem R)} (hcollects : c.ocean.Collects id { c.ocean with trash })
    (hbound : c.spawned.length < 2 ^ 32 - 1) :
    ((c.withTrash trash (c.game.trashCollected + 1)).emit
      (.trashCollected id (c.game.trashCollected + 1))).Tallied := by
  have hspawned := (brings_collect hrun id (c.game.trashCollected + 1) trash).spawned_eq
  rw [List.filterMap_cons_none rfl, List.filterMap_nil, List.append_nil] at hspawned
  have hfits : c.game.trashCollected.toNat + 1 < 2 ^ 32 := by
    have hle := h.score_le
    omega
  exact
    { spawned_eq := hspawned ▸ h.spawned_eq
      nextId_eq := hspawned ▸ h.nextId_eq
      trash_suffix := hspawned ▸ hcollects.ids_eq ▸ h.trash_suffix
      score_eq := by
        have hscore := hcollects.countP_collected
        rw [← h.score_eq, ← toNat_succ hfits] at hscore
        exact hscore.symm
      live_le := by
        have hlive := hcollects.countP_live
        exact Nat.le_trans (Nat.le.intro hlive) h.live_le }

theorem beat (h : c.Tallied) (hbeat : c.Beat c') (hbound : c'.spawned.length < 2 ^ 32 - 1) :
    c'.Tallied := by
  cases hbeat with
  | notes => exact h.of_eq (c.spawned_note _) rfl rfl rfl rfl
  | listens | hosts | works => exact h.of_eq rfl rfl rfl rfl rfl
  | ages hages => exact h.of_eq rfl hages.nextId_eq hages.marks_eq rfl rfl
  | @spawns id ocean _ hlive hspawns =>
    apply h.spawns hspawns hlive
    have hspawned := (c.brings_spawn id ocean).spawned_eq
    rw [hspawned, List.length_append] at hbound
    exact hbound
  | @collects id trash hrun hcollects =>
    apply h.collects hrun hcollects
    have hspawned := (brings_collect hrun id (c.game.trashCollected + 1) trash).spawned_eq
    rw [hspawned, List.length_append] at hbound
    exact Nat.lt_of_le_of_lt (Nat.le_add_right _ _) hbound
  | ends hrun => exact h.finish hrun _
  | collides index hrun =>
    have hspawned := (c.brings_emit (.coralHit index) rfl).spawned_eq
    have hemitted : (c.emit (.coralHit index)).Tallied :=
      h.of_eq (hspawned.trans (List.append_nil _)) rfl rfl rfl rfl
    exact hemitted.finish hrun .collision

end Tallied

theorem Tallied.pairwise_spawned (h : c.Tallied) : c.spawned.Pairwise (· < ·) := by
  have hincreasing : (c.spawned.map UInt32.toNat).Pairwise (· < ·) := by
    rw [h.spawned_eq]
    exact List.pairwise_lt_range'
  rw [List.pairwise_map] at hincreasing
  exact hincreasing

theorem Tallied.lt_nextId (h : c.Tallied) {id : UInt32} (hid : id ∈ c.spawned) :
    id < c.ocean.nextId := by
  have hmem : id.toNat ∈ c.spawned.map UInt32.toNat := List.mem_map_of_mem hid
  rw [h.spawned_eq, List.mem_range'_1] at hmem
  rw [UInt32.lt_iff_toNat_lt, h.nextId_eq]
  omega

variable [Scalar R] {begun : Nat} {taken : List (GameEvent R)}

theorem Move.spawned_prefix (h : c.Move begun taken c') : c.spawned <+: c'.spawned := by
  cases h with
  | beats hbeat =>
    obtain ⟨news, hnews⟩ := hbeat.brings
    rw [hnews.spawned_eq]
    exact List.prefix_append _ _
  | begins script =>
    rw [spawned_note]
    exact List.prefix_rfl
  | wipes | drains => exact List.prefix_rfl

theorem Tallied.move (h : c.Tallied) (hmove : c.Move begun taken c')
    (hbound : c'.spawned.length < 2 ^ 32 - 1) : c'.Tallied := by
  cases hmove with
  | beats hbeat => exact h.beat hbeat hbound
  | begins script => exact h.of_empty (spawned_note _ _) rfl rfl rfl
  | wipes hrun htrash hnextId => exact h.of_empty rfl hnextId htrash rfl
  | drains => exact h.of_eq rfl rfl rfl rfl rfl

theorem Tallied.moves (h : c.Tallied) (hmoves : c.Moves begun taken c')
    (hbound : c'.spawned.length < 2 ^ 32 - 1) : c'.Tallied := by
  -- the bound on the last state is a bound on all states before it
  induction hmoves with
  | refl => exact h
  | tail _ hmove ih =>
    have hle := hmove.spawned_prefix.length_le
    exact (ih (Nat.lt_of_le_of_lt hle hbound)).move hmove hbound

theorem tallied_new (settings : Settings R) (session : UInt64) :
    (new settings session).Tallied where
  spawned_eq := rfl
  nextId_eq := rfl
  trash_suffix := List.nil_suffix
  score_eq := rfl
  live_le := Nat.zero_le _

theorem tallied_after {settings : Settings R} {session : UInt64} {commands : List (Command R)}
    (hbound : ((new settings session).after commands).spawned.length < 2 ^ 32 - 1) :
    ((new settings session).after commands).Tallied :=
  (tallied_new settings session).moves (moves_after (consistent_new settings session) commands)
    hbound

/--
The score is the number of collected pieces, ids increase along the list of trash and are never
given out twice, and the spawner keeps to its cap.
-/
theorem score_and_population (settings : Settings R) (session : UInt64)
    (commands : List (Command R))
    (hbound : ((new settings session).after commands).spawned.length < 2 ^ 32 - 1) :
    let c := (new settings session).after commands
    c.game.trashCollected.toNat = c.ocean.trash.countP TrashItem.isCollected ∧
      (c.ocean.trash.map TrashItem.id).Pairwise (· < ·) ∧
      (∀ item ∈ c.ocean.trash, item.id < c.ocean.nextId) ∧
      c.ocean.trash.map TrashItem.id <:+ c.spawned ∧ c.spawned.Pairwise (· < ·) ∧
      c.ocean.liveTrash ≤ c.settings.maxTrash := by
  intro c
  have h : c.Tallied := tallied_after hbound
  have hsuffix : c.ocean.trash.map TrashItem.id <:+ c.spawned := by
    rw [Ocean.map_id_trash]
    exact h.trash_suffix
  have hspawned := h.pairwise_spawned
  refine ⟨?_, hspawned.sublist hsuffix.sublist, ?_, hsuffix, hspawned, ?_⟩
  . rw [Ocean.countP_collected]
    exact h.score_eq
  . intro item hitem
    exact h.lt_nextId (hsuffix.subset (List.mem_map_of_mem hitem))
  . rw [Ocean.liveTrash_eq]
    exact h.live_le

/-- The first of the two pieces comes up below the robot and is collected at once. -/
theorem score_and_population_of_one_pickup :
    let settings : Settings Float32 :=
      { (Settings.defaults : Settings Float32) with spawnInterval := 1 / 200, seed := some 428 }
    let c := (new settings 0).after
      [.start [], .stop, .start [.action (.setDriveRotation (some 90)), .action (.wait none)],
        .tick Tuning.timestep, .tick Tuning.timestep]
    c.spawned = [1, 2] ∧ c.game.trashCollected = 1 ∧
      c.ocean.trash.countP TrashItem.isCollected = 1 ∧
      (c.ocean.trash.map TrashItem.id).Pairwise (· < ·) ∧
      c.ocean.liveTrash ≤ c.settings.maxTrash := by
  intro settings c
  have hstate : c.spawned = [1, 2] ∧ c.game.trashCollected = 1 := by decide +kernel
  obtain ⟨hspawned, hcollected⟩ := hstate
  have hbound : c.spawned.length < 2 ^ 32 - 1 := by
    rw [hspawned]
    decide
  obtain ⟨hscore, hids, -, -, -, hlive⟩ := score_and_population settings 0 _ hbound
  refine ⟨hspawned, hcollected, ?_, hids, hlive⟩
  rw [hcollected] at hscore
  exact hscore.symm

end Controller

end ReefRover
