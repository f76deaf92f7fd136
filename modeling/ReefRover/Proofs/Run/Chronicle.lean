import ReefRover.Proofs.Run.Play
import ReefRover.Proofs.Run.Tally

/-!
This module contains the history that the events of a controller tell: one run after the other, each
with its trash and its end, and only the last one may go on.
-/

namespace ReefRover

variable {R : Type}

namespace Controller

/-- The events of the present run, which say which trash there is and what the score is. -/
structure Follows (c : Controller R) (events : List (GameEvent R)) : Prop where
  play : Play events
  marks_eq : c.ocean.marks = GameEvent.marks events
  score_eq : c.game.trashCollected.toNat = (GameEvent.pickups events).length

/-- All runs have ended, but for the one that goes on. -/
inductive Chronicle (c : Controller R) : Prop where
  | running (hrun : c.run.isSome = true) {past : List (List (GameEvent R))}
      {events : List (GameEvent R)} (hruns : c.runs = past ++ [events])
      (hpast : ∀ run ∈ past, Ended run) (hfollows : c.Follows events)
  | ended (hrun : c.run = none) (hruns : ∀ run ∈ c.runs, Ended run)

variable {c c' : Controller R} {events : List (GameEvent R)}

namespace Follows

theorem of_eq (h : c.Follows events) (hmarks : c'.ocean.marks = c.ocean.marks)
    (hscore : c'.game.trashCollected = c.game.trashCollected) : c'.Follows events where
  play := h.play
  marks_eq := hmarks.trans h.marks_eq
  score_eq := by
    rw [hscore]
    exact h.score_eq

theorem ids_eq (h : c.Follows events) : c.ocean.marks.map Prod.fst = GameEvent.spawns events := by
  rw [h.marks_eq]
  unfold GameEvent.marks
  rw [List.map_map]
  exact List.map_id _

theorem spawn (h : c.Follows events) (htallied : c.Tallied) {id : UInt32} {ocean : Ocean R}
    (hspawns : c.ocean.Spawns id ocean) :
    Follows ({ c with ocean }.emit (.trashSpawned id)) (events ++ [.trashSpawned id]) := by
  have hnew : id ∉ GameEvent.picked events := by
    intro hpicked
    have hid := h.play.mem_spawns hpicked
    rw [← h.ids_eq] at hid
    have hlt := htallied.lt_nextId (htallied.trash_suffix.subset hid)
    rw [hspawns.id_eq] at hlt
    exact absurd hlt (UInt32.lt_irrefl _)
  exact
    { play := h.play.spawn id
      marks_eq := by
        rw [GameEvent.marks_spawn hnew, ← h.marks_eq]
        exact hspawns.marks_eq
      score_eq := by
        rw [GameEvent.pickups_spawn]
        exact h.score_eq }

theorem collect (h : c.Follows events) (htallied : c.Tallied)
    (hbound : c.spawned.length < 2 ^ 32 - 1) {id : UInt32} {trash : List (TrashItem R)}
    (hcollects : c.ocean.Collects id { c.ocean with trash }) :
    let total := c.game.trashCollected + 1
    ((c.withTrash trash total).emit (.trashCollected id total)).Follows
      (events ++ [.trashCollected id total]) := by
  intro total
  obtain ⟨left, right, hmarks, hmarks'⟩ := hcollects.marks_eq
  rw [h.marks_eq] at hmarks
  obtain ⟨hspawned, hnew⟩ := GameEvent.not_mem_picked hmarks
  have hnodup : (GameEvent.spawns events).Nodup := by
    rw [← h.ids_eq]
    have hincreasing := htallied.pairwise_spawned.sublist htallied.trash_suffix.sublist
    exact hincreasing.imp UInt32.ne_of_lt
  have htotal : total.toNat = (GameEvent.pickups events).length + 1 := by
    have hle := htallied.score_le
    rw [← h.score_eq]
    exact toNat_succ (by omega)
  exact
    { play := h.play.collect hspawned hnew htotal
      marks_eq := by
        rw [GameEvent.marks_collect total hnodup hmarks]
        exact hmarks'
      score_eq := by
        rw [GameEvent.pickups_collect, List.length_append]
        exact htotal }

end Follows

namespace Chronicle

variable {past : List (List (GameEvent R))} {news taken : List (GameEvent R)} {begun : Nat}

theorem of_brings (hbrings : c.Brings news c') (hruns : c.runs = past ++ [events])
    (hpast : ∀ run ∈ past, Ended run) (hrun : c'.run.isSome = true)
    (hfollows : c'.Follows (events ++ news)) :
    c'.Chronicle ∧ c'.runs.length = c.runs.length := by
  have hruns' := hbrings.runs_append hruns
  refine ⟨.running hrun hruns' hpast hfollows, ?_⟩
  rw [hruns, hruns', List.length_append, List.length_append]
  rfl

theorem of_ended (hbrings : c.Brings news c') (hruns : c.runs = past ++ [events])
    (hpast : ∀ run ∈ past, Ended run) (hrun : c'.run = none) (hended : Ended (events ++ news)) :
    c'.Chronicle ∧ c'.runs.length = c.runs.length := by
  have hruns' := hbrings.runs_append hruns
  constructor
  . apply Chronicle.ended hrun
    rw [hruns']
    intro run hmem
    rcases List.mem_append.mp hmem with hmem | hmem
    . exact hpast run hmem
    . rw [List.mem_singleton.mp hmem]
      exact hended
  . rw [hruns, hruns', List.length_append, List.length_append]
    rfl

variable [Scalar R]

theorem still_of_beat (hconsistent : c.Consistent) (hrun : c.run = none) (hbeat : c.Beat c') :
    c'.run = none ∧ c'.runs = c.runs := by
  have hnot : ¬ c.run.isSome = true := by
    rw [hrun]
    exact Bool.false_ne_true
  cases hbeat with
  | notes hnotice => exact ⟨hrun, c.runs_note hnotice⟩
  | listens | hosts | ages => exact ⟨hrun, rfl⟩
  | spawns hspawning =>
    rw [hconsistent.isSpawningTrash, Bool.and_eq_true, ← hconsistent.run_isSome] at hspawning
    exact absurd hspawning.1 hnot
  | collects hsome => exact absurd hsome hnot
  | works hsome => exact absurd hsome hnot
  | ends hsome => exact absurd hsome hnot
  | collides index hsome => exact absurd hsome hnot

theorem beat (h : c.Chronicle) (hconsistent : c.Consistent) (htallied : c.Tallied)
    (hbound : c.spawned.length < 2 ^ 32 - 1) (hbeat : c.Beat c') :
    c'.Chronicle ∧ c'.runs.length = c.runs.length := by
  cases h with
  | ended hrun hruns =>
    obtain ⟨hrun', hruns'⟩ := still_of_beat hconsistent hrun hbeat
    exact ⟨.ended hrun' (hruns' ▸ hruns), congrArg _ hruns'⟩
  | @running hrun past events hruns hpast hfollows =>
    cases hbeat with
    | notes hnotice =>
      have hruns' := (c.runs_note hnotice).trans hruns
      exact ⟨.running hrun hruns' hpast (hfollows.of_eq rfl rfl), congrArg _ (c.runs_note hnotice)⟩
    | listens | hosts => exact ⟨.running hrun hruns hpast (hfollows.of_eq rfl rfl), rfl⟩
    | ages hages => exact ⟨.running hrun hruns hpast (hfollows.of_eq hages.marks_eq rfl), rfl⟩
    | works => exact ⟨.running rfl hruns hpast (hfollows.of_eq rfl rfl), rfl⟩
    | spawns hspawning hlive hspawns =>
      exact of_brings (c.brings_spawn _ _) hruns hpast hrun (hfollows.spawn htallied hspawns)
    | collects _ hcollects =>
      exact of_brings (brings_collect hrun _ _ _) hruns hpast hrun
        (hfollows.collect htallied hbound hcollects)
    | @ends outcome _ houtcome =>
      let report : RunReport R := { outcome, trashCollected := c.game.trashCollected }
      have hended : Ended (events ++ [.runFinished report]) :=
        .otherwise hfollows.play houtcome hfollows.score_eq
      exact of_ended (brings_finish hrun _) hruns hpast (c.run_finish _) hended
    | collides index =>
      have hended := Ended.byCollision index hfollows.play hfollows.score_eq
      exact of_ended (brings_collide hrun index) hruns hpast (run_finish _ _) hended

theorem move (h : c.Chronicle) (hconsistent : c.Consistent) (htallied : c.Tallied)
    (hbound : c.spawned.length < 2 ^ 32 - 1) (hmove : c.Move begun taken c') :
    c'.Chronicle ∧ c'.runs.length = c.runs.length + begun := by
  cases hmove with
  | beats hbeat => exact h.beat hconsistent htallied hbound hbeat
  | begins script hnotice hrunning =>
    have hruns' := (c.launched script).runs_note_of_startsRun hnotice
    cases h with
    | running hrun => exact absurd (hconsistent.isRunning hrun) (ne_true_of_eq_false hrunning)
    | ended hrun hruns =>
      refine ⟨.running rfl hruns' hruns ⟨.nil, rfl, rfl⟩, ?_⟩
      rw [hruns', List.length_append]
      rfl
  | wipes hrun =>
    cases h with
    | running hsome =>
      rw [hrun] at hsome
      cases hsome
    | ended _ hruns => exact ⟨.ended hrun hruns, rfl⟩
  | drains =>
    cases h with
    | running hrun hruns hpast hfollows =>
      exact ⟨.running hrun hruns hpast (hfollows.of_eq rfl rfl), rfl⟩
    | ended hrun hruns => exact ⟨.ended hrun hruns, rfl⟩

theorem moves (h : c.Chronicle) (hconsistent : c.Consistent) (htallied : c.Tallied)
    (hmoves : c.Moves begun taken c') (hbound : c'.spawned.length < 2 ^ 32 - 1) :
    c'.Chronicle ∧ c'.runs.length = c.runs.length + begun := by
  induction hmoves with
  | refl => exact ⟨h, rfl⟩
  | tail hmoves hmove ih =>
    have hbound' := Nat.lt_of_le_of_lt hmove.spawned_prefix.length_le hbound
    obtain ⟨h', hlength⟩ := ih hbound'
    obtain ⟨h'', hlength'⟩ := h'.move (hconsistent.moves hmoves)
      (htallied.moves hmoves hbound') hbound' hmove
    rw [hlength, Nat.add_assoc] at hlength'
    exact ⟨h'', hlength'⟩

end Chronicle

variable [Scalar R]

/--
All events that ever happened are told run by run, for each run that was begun. The runs but the
last have ended, the last has unless it goes on, and ids are given out one by one.
-/
theorem log_of_runs (settings : Settings R) (session : UInt64) (commands : List (Command R))
    (hbound : ((new settings session).after commands).spawned.length < 2 ^ 32 - 1) :
    let c := (new settings session).after commands
    c.log = (new settings session).taken commands ++ c.events.toList ∧
      c.runs.flatten = c.log ∧
      c.runs.length = (new settings session).begun commands ∧
      (c.isRunning = false ∧ (∀ run ∈ c.runs, Ended run) ∨
        c.isRunning = true ∧ ∃ past events, c.runs = past ++ [events] ∧
          (∀ run ∈ past, Ended run) ∧ Play events) ∧
      c.spawned.map UInt32.toNat = List.range' 1 c.spawned.length := by
  intro c
  have hconsistent := consistent_new settings session
  have hmoves := moves_after hconsistent commands
  have htallied := tallied_new settings session
  obtain ⟨news, hnews⟩ := hmoves.unfolds hconsistent
  have hnone : (new settings session).Chronicle := .ended rfl nofun
  obtain ⟨h, hlength⟩ := hnone.moves hconsistent htallied hmoves hbound
  have hrunning := (hconsistent.after commands).run_isSome
  refine ⟨?_, c.flatten_runs, ?_, ?_, (htallied.moves hmoves hbound).spawned_eq⟩
  . have hlog : c.log = [] ++ news := hnews.log_eq
    have hevents : (new settings session).taken commands ++ c.events.toList = [] ++ news :=
      hnews.events_eq
    exact hlog.trans hevents.symm
  . exact hlength.trans (Nat.zero_add _)
  . cases h with
    | ended hrun hruns =>
      rw [hrun] at hrunning
      exact .inl ⟨hrunning.symm, hruns⟩
    | running hrun hruns hpast hfollows =>
      rw [hrun] at hrunning
      exact .inr ⟨hrunning.symm, _, _, hruns, hpast, hfollows.play⟩

theorem log_of_three_runs :
    let settings : Settings Float32 :=
      { (Settings.defaults : Settings Float32) with spawnInterval := 1 / 200, seed := some 428 }
    let commands : List (Command Float32) :=
      [.start [.action (.setDriveRotation (some 90)), .action (.wait none)],
        .tick Tuning.timestep, .tick Tuning.timestep, .stop, .startDecoded (.error .notJson),
        .drainEvents, .start []]
    let c := (new settings 0).after commands
    c.spawned = [1, 2] ∧ (GameEvent.pickups c.log).length = 1 ∧ c.runs.flatten = c.log ∧
      c.runs.length = 3 ∧
      ∃ past events, c.runs = past ++ [events] ∧ (∀ run ∈ past, Ended run) ∧ Play events := by
  intro settings commands c
  have hstate : c.spawned = [1, 2] ∧ (GameEvent.pickups c.log).length = 1 ∧
      (new settings 0).begun commands = 3 ∧ c.isRunning = true := by
    decide +kernel
  obtain ⟨hspawned, hpickups, hbegun, hrunning⟩ := hstate
  have hbound : c.spawned.length < 2 ^ 32 - 1 := by
    rw [hspawned]
    decide
  obtain ⟨-, hflatten, hlength, hruns, -⟩ := log_of_runs settings 0 commands hbound
  refine ⟨hspawned, hpickups, hflatten, hlength.trans hbegun, ?_⟩
  rcases hruns with ⟨hended, -⟩ | ⟨-, hruns⟩
  . exact absurd hrunning (Bool.eq_false_iff.mp hended)
  . exact hruns

end Controller

end ReefRover
