import Mathlib
import ReefRover.Proofs.Ocean.Cadence
import ReefRover.Proofs.Ocean.Gathering
import ReefRover.Proofs.Run.Frames
import ReefRover.Proofs.Run.Lifecycle
import ReefRover.Proofs.Run.Refusal

/-!
This module contains the proof that the spawner keeps its cadence. Within a run the spawner's clock
is handed on from one timestep to the next, by nothing but the ocean's own tick, so the attempts
follow each other at the interval for as long as the run lasts.
-/

namespace ReefRover

variable {R : Type}

theorem TrashItem.id_gathered [Scalar R] (robot : Point R) (factor : R) (item : TrashItem R) :
    (item.gathered robot factor).id = item.id := by
  unfold gathered
  split
  . rfl
  . rfl

namespace Controller

/-- The settings, the spawner's clock, and the ids of the trash. -/
def supply (c : Controller R) : Settings R × R × List UInt32 :=
  (c.settings, c.ocean.spawnTimer, c.ocean.trash.map TrashItem.id)

variable [Scalar R]

theorem supply_collected (c : Controller R) : c.collected.supply = c.supply := by
  have hids : (c.ocean.trash.map (TrashItem.gathered c.robot.position c.ocean.layout.factor)).map
      TrashItem.id = c.ocean.trash.map TrashItem.id := by
    rw [List.map_map]
    exact List.map_congr_left fun item _ => item.id_gathered _ _
  unfold supply
  rw [settings_collected, ocean_collected, Ocean.observe_eq]
  exact congrArg (fun ids => (c.settings, c.ocean.spawnTimer, ids)) hids

theorem supply_tick (c : Controller R) (dt : R) : (c.tick dt).supply = (c.tickOcean dt).supply := by
  apply tick_induction (P := fun d => d.supply = (c.tickOcean dt).supply)
  . intro d e hsettings hocean _ hd
    unfold supply at hd ⊢
    rw [hsettings, hocean]
    exact hd
  . intro d hd
    exact d.supply_collected.trans hd
  . intro d run dt' hd
    exact (d.runProgram_kept supply (fun _ _ _ => rfl) (fun _ _ => rfl) run dt').trans hd
  . intro _
    rfl
  . intro run _
    rfl

theorem supply_tickOcean (c : Controller R) (dt : R) :
    (c.tickOcean dt).supply =
      let ocean := (c.ocean.tick c.settings c.game.isSpawningTrash dt).2
      (c.settings, ocean.spawnTimer, ocean.trash.map TrashItem.id) := by
  unfold tickOcean
  dsimp only
  split
  . rfl
  . rfl

theorem settings_tick (c : Controller R) (dt : R) : (c.tick dt).settings = c.settings := by
  have hsupply := (c.supply_tick dt).trans (c.supply_tickOcean dt)
  exact congrArg Prod.fst hsupply

theorem spawnTimer_tick {c : Controller R} (h : c.game.isSpawningTrash = true) (dt : R) :
    (c.tick dt).ocean.spawnTimer = c.ocean.timerAfter c.settings dt := by
  have hsupply := (c.supply_tick dt).trans (c.supply_tickOcean dt)
  rw [h] at hsupply
  exact (congrArg (fun supply => supply.2.1) hsupply).trans (c.ocean.spawnTimer_tick c.settings dt)

theorem ids_tick (c : Controller R) (dt : R) :
    (c.tick dt).ocean.trash.map TrashItem.id =
      c.ocean.trash.map TrashItem.id ++
        if c.ocean.attempts c.game.isSpawningTrash dt = true ∧
            c.ocean.liveTrash < c.settings.maxTrash then
          [c.ocean.nextId]
        else
          [] := by
  have hsupply := (c.supply_tick dt).trans (c.supply_tickOcean dt)
  have hids := congrArg (fun supply => supply.2.2) hsupply
  have hmarks := c.ocean.marks_tick c.settings c.game.isSpawningTrash dt
  dsimp only [supply] at hids
  rw [Ocean.map_id_trash, Ocean.map_id_trash] at hids
  rw [Ocean.map_id_trash, Ocean.map_id_trash, hids, hmarks, List.map_append]
  congr 1
  split
  . rfl
  . rfl

/-! ### Timesteps -/

/-- A timestep, given by the controller before it. -/
structure Timestep (R : Type) where
  before : Controller R
  dt : R

def steps (c : Controller R) : Nat → List (Timestep R)
  | 0 => []
  | count + 1 => ⟨c, Tuning.timestep⟩ :: (c.tick Tuning.timestep).steps count

/-- The timesteps that a command runs, each given without the host time that is left. -/
def stepsOf (c : Controller R) : Command R → List (Timestep R)
  | .tick dt => [⟨c, dt⟩]
  | .advance frame => c.steps (c.advance frame).1
  | .start _ | .startDecoded _ | .stop | .reset | .clear | .setLayout _ | .listen
  | .drainEvents => []

def timeline (c : Controller R) : List (Command R) → List (Timestep R)
  | [] => []
  | command :: commands => c.stepsOf command ++ (c.obey command).timeline commands

namespace Timestep

def after (step : Timestep R) : Controller R :=
  step.before.tick step.dt

def attempts (step : Timestep R) : Bool :=
  step.before.ocean.attempts step.before.game.isSpawningTrash step.dt

def inRun (steps : List (Timestep R)) : List (Timestep R) :=
  steps.filter fun step => step.before.isRunning

omit [Scalar R] in
theorem inRun_append (steps steps' : List (Timestep R)) :
    inRun (steps ++ steps') = inRun steps ++ inRun steps' :=
  List.filter_append steps steps'

end Timestep

variable {c : Controller R}

/-! ### After the run -/

namespace Consistent

theorem tick (h : c.Consistent) (dt : R) : (c.tick dt).Consistent :=
  h.moves (c.beats_tick dt).moves

theorem not_isRunning_tick (h : c.Consistent) (hrunning : c.isRunning = false) (dt : R) :
    (c.tick dt).isRunning = false := by
  rw [tick_of_run_eq_none (h.run_eq_none hrunning), ← hrunning]
  exact congrArg (fun bearings => bearings.phase.isRunning) (c.bearings_tickOcean dt)

theorem inRun_steps (h : c.Consistent) (hrunning : c.isRunning = false) (count : Nat) :
    Timestep.inRun (c.steps count) = [] ∧ (c.ticked count).isRunning = false := by
  induction count generalizing c with
  | zero => exact ⟨rfl, hrunning⟩
  | succ count ih =>
    obtain ⟨hnone, hrest⟩ := ih (h.tick _) (h.not_isRunning_tick hrunning _)
    refine ⟨?_, hrest⟩
    unfold steps Timestep.inRun
    rw [List.filter_cons_of_neg (by simp [hrunning])]
    exact hnone

theorem inRun_stepsOf (h : c.Consistent) (hrunning : c.isRunning = false) {command : Command R}
    (hbegins : c.begins command = false) :
    Timestep.inRun (c.stepsOf command) = [] ∧ (c.obey command).isRunning = false := by
  have hrun := h.run_eq_none hrunning
  cases command with
  | start program =>
    rw [begins_start, hrunning] at hbegins
    cases hbegins
  | startDecoded decoded =>
    rw [begins_startDecoded, hrunning] at hbegins
    cases hbegins
  | stop =>
    have hstop : c.obey .stop = c := finish_of_run_eq_none hrun .stopped
    rw [hstop]
    exact ⟨rfl, hrunning⟩
  | reset | clear => exact ⟨rfl, rfl⟩
  | setLayout layout =>
    refine ⟨rfl, ?_⟩
    unfold obey setLayout
    rw [hrunning]
    rfl
  | listen | drainEvents => exact ⟨rfl, hrunning⟩
  | tick dt =>
    refine ⟨?_, h.not_isRunning_tick hrunning dt⟩
    exact List.filter_cons_of_neg (by simp [hrunning])
  | advance frame =>
    obtain ⟨hnone, hrest⟩ := h.inRun_steps hrunning (c.advance frame).1
    have hpasses : (c.advance frame).2 = (c.ticked _).withTime _ := (c.passes_advance frame).1
    exact ⟨hnone, (congrArg Controller.isRunning hpasses).trans hrest⟩

theorem inRun_timeline (h : c.Consistent) (hrunning : c.isRunning = false)
    {commands : List (Command R)} (hbegun : c.begun commands = 0) :
    Timestep.inRun (c.timeline commands) = [] := by
  induction commands generalizing c with
  | nil => rfl
  | cons command commands ih =>
    obtain ⟨hfirst, hlater⟩ := Nat.add_eq_zero_iff.mp hbegun
    have hbegins : c.begins command = false := Bool.toNat_eq_zero.mp hfirst
    obtain ⟨hnone, hrest⟩ := h.inRun_stepsOf hrunning hbegins
    unfold timeline
    rw [Timestep.inRun_append, hnone, ih (h.moves (moves_obey h command)) hrest hlater]
    rfl

end Consistent

/-! ### The run -/

section Exact

variable [Exact] {c : Controller ℝ} {interval : ℝ}

/-- The spawner's clock goes from `timer` to `timer'`, handed on from one timestep to the next. -/
inductive Paced (interval : ℝ) : ℝ → List (Timestep ℝ) → ℝ → Prop where
  | nil (timer : ℝ) : Paced interval timer [] timer
  | cons {step : Timestep ℝ} {steps : List (Timestep ℝ)} {timer : ℝ}
      (hspawning : step.before.game.isSpawningTrash = true)
      (hinterval : step.before.settings.effectiveSpawnInterval = interval)
      (hrest : Paced interval (step.before.ocean.timerAfter step.before.settings step.dt) steps
        timer) :
      Paced interval step.before.ocean.spawnTimer (step :: steps) timer

namespace Paced

variable {timer timer' timer'' dt : ℝ} {steps steps' : List (Timestep ℝ)}

theorem append (h : Paced interval timer steps timer') (h' : Paced interval timer' steps' timer'') :
    Paced interval timer (steps ++ steps') timer'' := by
  induction h with
  | nil => exact h'
  | cons hspawning hinterval _ ih => exact .cons hspawning hinterval (ih h')

theorem of_append (h : Paced interval timer (steps ++ steps') timer'') :
    ∃ timer', Paced interval timer steps timer' := by
  induction steps generalizing timer with
  | nil => exact ⟨timer, .nil timer⟩
  | cons step steps ih =>
    cases h with
    | cons hspawning hinterval hrest =>
      obtain ⟨timer', hsteps⟩ := ih hrest
      exact ⟨timer', .cons hspawning hinterval hsteps⟩

theorem timer_eq (h : Paced interval timer steps timer') (hdt : ∀ step ∈ steps, step.dt = dt) :
    timer' + steps.length * dt = timer + steps.countP Timestep.attempts * interval := by
  induction h with
  | nil => simp
  | @cons step steps timer' hspawning hinterval _ ih =>
    obtain ⟨hfirst, hrest⟩ := List.forall_mem_cons.mp hdt
    have hattempts : step.attempts = step.before.ocean.attempts true step.dt := by
      unfold Timestep.attempts
      rw [hspawning]
    have hclock := ih hrest
    rw [Ocean.timerAfter_eq, hinterval, ← hattempts, hfirst] at hclock
    have hcount : ((step :: steps).countP Timestep.attempts : ℝ) =
        steps.countP Timestep.attempts + step.attempts.toNat := by
      rw [List.countP_cons]
      cases step.attempts with
      | false => simp
      | true => simp
    rw [hcount, List.length_cons, Nat.cast_succ]
    linarith

theorem bounds (h : Paced interval timer steps timer') (hdt : ∀ step ∈ steps, step.dt = dt)
    (hpos : 0 < dt) (hshort : dt ≤ interval) (htimer : 0 < timer ∧ timer ≤ interval) :
    0 < timer' ∧ timer' ≤ interval := by
  induction h with
  | nil => exact htimer
  | cons hspawning hinterval _ ih =>
    obtain ⟨hfirst, hrest⟩ := List.forall_mem_cons.mp hdt
    subst hinterval hfirst
    exact ih hrest (Ocean.timerAfter_bounds htimer.1 htimer.2 hpos hshort)

theorem countP_attempts (h : Paced interval interval steps timer')
    (hdt : ∀ step ∈ steps, step.dt = dt) (hpos : 0 < dt) (hshort : dt ≤ interval) :
    steps.countP Timestep.attempts = ⌊steps.length * dt / interval⌋₊ := by
  have hinterval : 0 < interval := hpos.trans_le hshort
  have hclock := h.timer_eq hdt
  have hbounds := h.bounds hdt hpos hshort ⟨hinterval, le_rfl⟩
  symm
  rw [Nat.floor_eq_iff (by positivity), le_div_iff₀ hinterval, div_lt_iff₀ hinterval, add_mul]
  constructor
  . linarith
  . linarith

end Paced

structure Stocks (interval : ℝ) (c : Controller ℝ) : Prop where
  consistent : c.Consistent
  trashSpawning : c.settings.trashSpawning = true
  interval_eq : c.settings.effectiveSpawnInterval = interval

namespace Stocks

theorem tick (h : c.Stocks interval) (dt : ℝ) : (c.tick dt).Stocks interval where
  consistent := h.consistent.tick dt
  trashSpawning := c.settings_tick dt ▸ h.trashSpawning
  interval_eq := c.settings_tick dt ▸ h.interval_eq

theorem isSpawningTrash (h : c.Stocks interval) (hrunning : c.isRunning = true) :
    c.game.isSpawningTrash = true := by
  rw [h.consistent.isSpawningTrash, hrunning, h.trashSpawning]
  rfl

theorem paced_tick (h : c.Stocks interval) (hrunning : c.isRunning = true) (dt : ℝ) :
    Paced interval c.ocean.spawnTimer [⟨c, dt⟩] (c.tick dt).ocean.spawnTimer := by
  have hspawning : (Timestep.mk c dt).before.game.isSpawningTrash = true :=
    h.isSpawningTrash hrunning
  rw [spawnTimer_tick hspawning]
  exact .cons hspawning h.interval_eq (.nil _)

theorem paced_steps (h : c.Stocks interval) (hrunning : c.isRunning = true) (count : Nat) :
    ∃ timer, Paced interval c.ocean.spawnTimer (Timestep.inRun (c.steps count)) timer ∧
      ((c.ticked count).isRunning = true →
        (c.ticked count).Stocks interval ∧ (c.ticked count).ocean.spawnTimer = timer) := by
  induction count generalizing c with
  | zero => exact ⟨_, .nil _, fun _ => ⟨h, rfl⟩⟩
  | succ count ih =>
    have hfirst := h.paced_tick hrunning Tuning.timestep
    have hsteps : Timestep.inRun (c.steps (count + 1)) =
        ⟨c, Tuning.timestep⟩ :: Timestep.inRun ((c.tick Tuning.timestep).steps count) :=
      List.filter_cons_of_pos hrunning
    rw [hsteps]
    cases hrunning' : (c.tick Tuning.timestep).isRunning with
    | true =>
      obtain ⟨timer, hrest, hlast⟩ := ih (h.tick _) hrunning'
      exact ⟨timer, hfirst.append hrest, hlast⟩
    | false =>
      obtain ⟨hnone, hover⟩ := (h.tick _).consistent.inRun_steps hrunning' count
      rw [hnone]
      exact ⟨_, hfirst, fun hlast => absurd (hover.symm.trans hlast) Bool.false_ne_true⟩

theorem withTime (h : c.Stocks interval) (time : ℝ) : (c.withTime time).Stocks interval where
  consistent := { h.consistent with }
  trashSpawning := h.trashSpawning
  interval_eq := h.interval_eq

theorem note (h : c.Stocks interval) (notice : Notice ℝ) : (c.note notice).Stocks interval where
  consistent := { h.consistent with }
  trashSpawning := h.trashSpawning
  interval_eq := h.interval_eq

theorem not_isRunning_stop (h : c.Stocks interval) (hrunning : c.isRunning = true) :
    c.stop.isRunning = false := by
  have hrun : c.run.isSome = true := h.consistent.run_isSome.trans hrunning
  unfold stop
  rw [finish_eq hrun]
  rfl

theorem paced_stepsOf (h : c.Stocks interval) (hrunning : c.isRunning = true)
    (command : Command ℝ) :
    ∃ timer, Paced interval c.ocean.spawnTimer (Timestep.inRun (c.stepsOf command)) timer ∧
      ((c.obey command).isRunning = true →
        (c.obey command).Stocks interval ∧ (c.obey command).ocean.spawnTimer = timer) := by
  cases command with
  | start program =>
    have hrefused : c.obey (.start program) = c.note .startRefused :=
      congrArg Prod.snd (start_of_running hrunning program)
    rw [hrefused]
    exact ⟨_, .nil _, fun _ => ⟨h.note _, rfl⟩⟩
  | startDecoded decoded =>
    have hrefused : c.obey (.startDecoded decoded) = c.note .startRefused :=
      congrArg Prod.snd (startDecoded_of_running hrunning decoded)
    rw [hrefused]
    exact ⟨_, .nil _, fun _ => ⟨h.note _, rfl⟩⟩
  | setLayout layout =>
    have hrefused : c.obey (.setLayout layout) = c.note .layoutRefused :=
      congrArg Prod.snd (setLayout_of_running hrunning layout)
    rw [hrefused]
    exact ⟨_, .nil _, fun _ => ⟨h.note _, rfl⟩⟩
  | stop =>
    have hover := h.not_isRunning_stop hrunning
    exact ⟨_, .nil _, fun hrunning' => absurd (hover.symm.trans hrunning') Bool.false_ne_true⟩
  | reset | clear => exact ⟨_, .nil _, nofun⟩
  | listen | drainEvents =>
    exact ⟨_, .nil _, fun _ => ⟨⟨{ h.consistent with }, h.trashSpawning, h.interval_eq⟩, rfl⟩⟩
  | tick dt =>
    have hstep : Timestep.inRun (c.stepsOf (.tick dt)) = [⟨c, dt⟩] :=
      List.filter_cons_of_pos hrunning
    rw [hstep]
    exact ⟨_, h.paced_tick hrunning dt, fun _ => ⟨h.tick dt, rfl⟩⟩
  | advance frame =>
    obtain ⟨timer, hsteps, hlast⟩ := h.paced_steps hrunning (c.advance frame).1
    have hpasses : (c.advance frame).2 = (c.ticked _).withTime _ := (c.passes_advance frame).1
    refine ⟨timer, hsteps, ?_⟩
    unfold obey
    dsimp only
    rw [hpasses]
    intro hrunning'
    obtain ⟨hstocks, htimer⟩ := hlast hrunning'
    exact ⟨hstocks.withTime _, htimer⟩

theorem paced_timeline (h : c.Stocks interval) (hrunning : c.isRunning = true)
    {commands : List (Command ℝ)} (hbegun : c.begun commands = 0) :
    ∃ timer, Paced interval c.ocean.spawnTimer (Timestep.inRun (c.timeline commands)) timer := by
  induction commands generalizing c with
  | nil => exact ⟨_, .nil _⟩
  | cons command commands ih =>
    obtain ⟨-, hlater⟩ := Nat.add_eq_zero_iff.mp hbegun
    obtain ⟨timer, hfirst, hlast⟩ := h.paced_stepsOf hrunning command
    unfold timeline
    rw [Timestep.inRun_append]
    cases hrunning' : (c.obey command).isRunning with
    | true =>
      obtain ⟨hstocks, rfl⟩ := hlast hrunning'
      obtain ⟨timer', hrest⟩ := ih hstocks hrunning' hlater
      exact ⟨timer', hfirst.append hrest⟩
    | false =>
      have hconsistent := h.consistent.moves (moves_obey h.consistent command)
      rw [hconsistent.inRun_timeline hrunning' hlater, List.append_nil]
      exact ⟨timer, hfirst⟩

end Stocks

theorem stocks_start (h : c.Consistent) (hrunning : c.isRunning = false)
    (hspawning : c.settings.trashSpawning = true) (program : Program ℝ) :
    (c.start program).2.Stocks c.settings.effectiveSpawnInterval ∧
      (c.start program).2.isRunning = true ∧
      (c.start program).2.ocean.spawnTimer = c.settings.effectiveSpawnInterval := by
  have hconsistent := h.moves (c.moves_start program)
  rw [start_eq hrunning] at hconsistent ⊢
  exact ⟨⟨hconsistent, hspawning, rfl⟩, rfl, rfl⟩

/--
In a run with the spawner on, timesteps of one length make an attempt each time that another spawn
interval is over. An attempt adds a piece of trash if there is not enough of it, and no trash comes
up otherwise. The interval is the one of the settings, if that is a positive finite number.
-/
theorem spawns_in_cadence (settings : Settings ℝ) (session : UInt64)
    (earlier commands : List (Command ℝ)) (program : Program ℝ) (dt : ℝ) :
    let c := (new settings session).after earlier
    let started := (c.start program).2
    let interval := c.settings.effectiveSpawnInterval
    let run := Timestep.inRun (started.timeline commands)
    c.isRunning = false → c.settings.trashSpawning = true → started.begun commands = 0 →
      (∀ step ∈ run, step.dt = dt) → 0 < dt → dt ≤ interval →
      (∀ first, first <+: run →
        first.countP Timestep.attempts = ⌊first.length * dt / interval⌋₊) ∧
      (∀ step ∈ run,
        step.after.ocean.trash.map TrashItem.id =
          step.before.ocean.trash.map TrashItem.id ++
            if step.attempts = true ∧
                step.before.ocean.liveTrash < step.before.settings.maxTrash then
              [step.before.ocean.nextId]
            else
              []) ∧
      interval =
        if Scalar.isFinite c.settings.spawnInterval = true ∧ 0 < c.settings.spawnInterval then
          c.settings.spawnInterval
        else
          2 := by
  intro c started interval run hrunning hspawning hbegun hdt hpos hshort
  obtain ⟨hstocks, hrunning', htimer⟩ := stocks_start (consistent_after settings session earlier)
    hrunning hspawning program
  obtain ⟨timer, hpaced⟩ := hstocks.paced_timeline hrunning' hbegun
  change Paced interval started.ocean.spawnTimer run timer at hpaced
  rw [htimer] at hpaced
  refine ⟨?_, ?_, c.settings.effectiveSpawnInterval_eq⟩
  . rintro first ⟨rest, hrun⟩
    rw [← hrun] at hpaced hdt
    obtain ⟨timer', hfirst⟩ := hpaced.of_append
    apply hfirst.countP_attempts _ hpos hshort
    intro step hstep
    exact hdt step (List.mem_append_left rest hstep)
  . intro step _
    exact ids_tick step.before step.dt

end Exact

theorem spawns_in_cadence_of_three_ticks :
    let _ : Exact :=
      { facing := fun degrees =>
          (Real.sin (degrees * Real.pi / 180), -Real.cos (degrees * Real.pi / 180))
        isFinite := fun _ => true }
    let c := (new Settings.defaults 7 : Controller ℝ)
    let started := (c.start [.action (.wait none)]).2
    let commands : List (Command ℝ) := [.tick 1, .listen, .tick 1, .stop, .tick 1]
    let run := Timestep.inRun (started.timeline commands)
    run.countP Timestep.attempts = ⌊run.length * 1 / c.settings.effectiveSpawnInterval⌋₊ := by
  intro exact c started commands run
  have hdt : ∀ step ∈ run, step.dt = 1 := by
    intro step hstep
    have hmem : step ∈ started.timeline commands := List.mem_of_mem_filter hstep
    have hdts : (started.timeline commands).map Timestep.dt = [1, 1, 1] := rfl
    have hstep' := List.mem_map_of_mem (f := Timestep.dt) hmem
    rw [hdts] at hstep'
    simpa using hstep'
  have hshort : 1 ≤ c.settings.effectiveSpawnInterval := by
    have hinterval : c.settings.spawnInterval = 2 := Tuning.spawnInterval_eq
    rw [Settings.effectiveSpawnInterval_eq, hinterval, ite_self]
    norm_num
  obtain ⟨hcount, -⟩ := spawns_in_cadence Settings.defaults 7 [] commands [.action (.wait none)] 1
    rfl rfl rfl hdt one_pos hshort
  exact hcount run (List.prefix_refl run)

end Controller

end ReefRover
