import ReefRover.Proofs.Run.Lifecycle
import ReefRover.Scalar.Single

/-!
This module contains the proof that everything is frozen outside of runs: time passes, and nothing
happens but that trash grows and bobs.
-/

namespace ReefRover

variable {R : Type}

/-- Whether a command only lets time pass, ends the run, or has to do with the host. -/
def Command.isPassive : Command R → Bool
  | .stop | .listen | .tick _ | .advance _ | .drainEvents => true
  | .start _ | .startDecoded _ | .reset | .clear | .setLayout _ => false

/-- What time leaves alone in a piece of trash. -/
def TrashItem.lasting (item : TrashItem R) : UInt32 × Point R × TrashKind × R × Bool :=
  (item.id, item.position, item.kind, item.targetScale, item.isCollected)

theorem TrashItem.lasting_tick [Scalar R] (item : TrashItem R) (dt : R) :
    (item.tick dt).lasting = item.lasting := by
  unfold tick
  split
  . rfl
  . rfl

namespace Controller

/-- From one state to the other nothing happened, except that trash may have grown and bobbed. -/
structure Frozen (c c' : Controller R) : Prop where
  rig_eq : c'.rig = c.rig
  game_eq : c'.game = c.game
  phase_eq : c'.phase = c.phase
  run_eq : c'.run = c.run
  settings_eq : c'.settings = c.settings
  layout_eq : c'.ocean.layout = c.ocean.layout
  coral_eq : c'.ocean.coral = c.ocean.coral
  random_eq : c'.ocean.random = c.ocean.random
  spawnTimer_eq : c'.ocean.spawnTimer = c.ocean.spawnTimer
  nextId_eq : c'.ocean.nextId = c.ocean.nextId
  trash_eq : c'.ocean.trash.map TrashItem.lasting = c.ocean.trash.map TrashItem.lasting
  journal_eq : c'.journal = c.journal

namespace Frozen

variable {c c' c'' : Controller R}

theorem refl (c : Controller R) : c.Frozen c :=
  ⟨rfl, rfl, rfl, rfl, rfl, rfl, rfl, rfl, rfl, rfl, rfl, rfl⟩

theorem trans (h : c.Frozen c') (h' : c'.Frozen c'') : c.Frozen c'' where
  rig_eq := h'.rig_eq.trans h.rig_eq
  game_eq := h'.game_eq.trans h.game_eq
  phase_eq := h'.phase_eq.trans h.phase_eq
  run_eq := h'.run_eq.trans h.run_eq
  settings_eq := h'.settings_eq.trans h.settings_eq
  layout_eq := h'.layout_eq.trans h.layout_eq
  coral_eq := h'.coral_eq.trans h.coral_eq
  random_eq := h'.random_eq.trans h.random_eq
  spawnTimer_eq := h'.spawnTimer_eq.trans h.spawnTimer_eq
  nextId_eq := h'.nextId_eq.trans h.nextId_eq
  trash_eq := h'.trash_eq.trans h.trash_eq
  journal_eq := h'.journal_eq.trans h.journal_eq

theorem hosts (c : Controller R) (accumulator : R) (events : Array (GameEvent R))
    (listeners : Nat) : c.Frozen { c with accumulator, events, listeners } :=
  ⟨rfl, rfl, rfl, rfl, rfl, rfl, rfl, rfl, rfl, rfl, rfl, rfl⟩

theorem length_trash (h : c.Frozen c') : c'.ocean.trash.length = c.ocean.trash.length := by
  have hlength := congrArg List.length h.trash_eq
  rw [List.length_map, List.length_map] at hlength
  exact hlength

theorem log_eq (h : c.Frozen c') : c'.log = c.log := by
  unfold log
  rw [h.journal_eq]

theorem told_eq (h : c.Frozen c') (listener : Nat) : c'.told listener = c.told listener := by
  unfold told
  rw [h.journal_eq]

end Frozen

structure Settled (c : Controller R) : Prop where
  run_eq : c.run = none
  isSpawningTrash : c.game.isSpawningTrash = false

variable {c c' : Controller R}

theorem Settled.frozen (h : c.Settled) (hfrozen : c.Frozen c') : c'.Settled where
  run_eq := by
    rw [hfrozen.run_eq]
    exact h.run_eq
  isSpawningTrash := by
    rw [hfrozen.game_eq]
    exact h.isSpawningTrash

variable [Scalar R]

namespace Settled

theorem tick_eq (h : c.Settled) (dt : R) :
    c.tick dt = { c with ocean := { c.ocean with trash := c.ocean.trash.map (·.tick dt) } } := by
  rw [tick_of_run_eq_none h.run_eq]
  unfold tickOcean Ocean.tick
  rw [h.isSpawningTrash]
  rfl

theorem frozen_tick (h : c.Settled) (dt : R) :
    c.Frozen (c.tick dt) ∧ (c.tick dt).events = c.events := by
  have htrash : (c.ocean.trash.map (·.tick dt)).map TrashItem.lasting =
      c.ocean.trash.map TrashItem.lasting := by
    rw [List.map_map]
    apply List.map_congr_left
    intro item _
    exact item.lasting_tick dt
  rw [h.tick_eq dt]
  exact ⟨⟨rfl, rfl, rfl, rfl, rfl, rfl, rfl, rfl, rfl, rfl, htrash, rfl⟩, rfl⟩

theorem frozen_advance (h : c.Settled) (frame : R) :
    c.Frozen (c.advance frame).2 ∧ (c.advance frame).2.events = c.events := by
  apply advance_induction (P := fun d => c.Frozen d ∧ d.events = c.events)
  . rintro d accumulator ⟨hfrozen, hevents⟩
    exact ⟨hfrozen.trans (.hosts d accumulator d.events d.listeners), hevents⟩
  . rintro d ⟨hfrozen, hevents⟩
    obtain ⟨htick, hevents'⟩ := (h.frozen hfrozen).frozen_tick _
    exact ⟨hfrozen.trans htick, hevents'.trans hevents⟩
  . exact ⟨.refl c, rfl⟩

theorem frozen_obey (h : c.Settled) {command : Command R} (hpassive : command.isPassive = true) :
    c.Frozen (c.obey command) ∧
      c.takes command ++ (c.obey command).events.toList = c.events.toList := by
  cases command with
  | start | startDecoded | reset | clear | setLayout => cases hpassive
  | stop =>
    have hstop : c.obey .stop = c := finish_of_run_eq_none h.run_eq .stopped
    rw [hstop]
    exact ⟨.refl c, rfl⟩
  | listen => exact ⟨.hosts c c.accumulator c.events _, rfl⟩
  | tick dt =>
    obtain ⟨hfrozen, hevents⟩ := h.frozen_tick dt
    exact ⟨hfrozen, congrArg Array.toList hevents⟩
  | advance frame =>
    obtain ⟨hfrozen, hevents⟩ := h.frozen_advance frame
    exact ⟨hfrozen, congrArg Array.toList hevents⟩
  | drainEvents => exact ⟨.hosts c c.accumulator _ c.listeners, List.append_nil _⟩

theorem frozen_after (h : c.Settled) {commands : List (Command R)}
    (hpassive : ∀ command ∈ commands, command.isPassive = true) :
    c.Frozen (c.after commands) ∧
      c.taken commands ++ (c.after commands).events.toList = c.events.toList := by
  induction commands generalizing c with
  | nil => exact ⟨.refl c, rfl⟩
  | cons command commands ih =>
    rw [List.forall_mem_cons] at hpassive
    obtain ⟨hobey, hevents⟩ := h.frozen_obey hpassive.1
    obtain ⟨hrest, hevents'⟩ := ih (h.frozen hobey) hpassive.2
    refine ⟨hobey.trans hrest, ?_⟩
    rw [← hevents, ← hevents']
    exact List.append_assoc ..

end Settled

theorem Consistent.settled (h : c.Consistent) (hrunning : c.isRunning = false) : c.Settled where
  run_eq := h.run_eq_none hrunning
  isSpawningTrash := by
    rw [h.isSpawningTrash, hrunning]
    rfl

/--
However a controller came to be without a run, its host can let time pass, stop and take out events
as often as it wants to: nothing changes, nothing happens and nobody is told anything.
-/
theorem frozen_outside_runs (settings : Settings R) (session : UInt64)
    (earlier commands : List (Command R)) :
    let c := (new settings session).after earlier
    c.isRunning = false → (∀ command ∈ commands, command.isPassive = true) →
      let c' := c.after commands
      c.Frozen c' ∧ c'.ocean.trash.length = c.ocean.trash.length ∧ c'.log = c.log ∧
        (∀ listener, c'.told listener = c.told listener) ∧
        c.taken commands ++ c'.events.toList = c.events.toList := by
  intro c hrunning hpassive c'
  have hsettled := (consistent_after settings session earlier).settled hrunning
  obtain ⟨hfrozen, hevents⟩ := hsettled.frozen_after hpassive
  exact ⟨hfrozen, hfrozen.length_trash, hfrozen.log_eq, hfrozen.told_eq, hevents⟩

theorem frozen_in_mid_turn :
    let earlier : List (Command Float32) :=
      [.start [.action (.turn .right none)], .tick 0, .tick (1 / 4), .stop]
    let commands : List (Command Float32) := [.tick 1, .advance 1, .stop, .drainEvents, .tick 1]
    let c := (new (Settings.defaults : Settings Float32) 7).after earlier
    c.isRunning = false ∧ (∀ command ∈ commands, command.isPassive = true) ∧
      c.rig.robot.rotation ≠ 0 ∧ c.rig.robot.rotation ≠ 90 ∧ c.Frozen (c.after commands) := by
  intro earlier commands c
  have hstopped : c.isRunning = false ∧ c.rig.robot.rotation ≠ 0 ∧ c.rig.robot.rotation ≠ 90 := by
    decide +kernel
  obtain ⟨hrunning, hstarted, hturned⟩ := hstopped
  have hpassive : ∀ command ∈ commands, command.isPassive = true := by
    simp [commands, Command.isPassive]
  obtain ⟨hfrozen, -⟩ := frozen_outside_runs (Settings.defaults : Settings Float32) 7 earlier
    commands hrunning hpassive
  exact ⟨hrunning, hpassive, hstarted, hturned, hfrozen⟩

end Controller

end ReefRover
