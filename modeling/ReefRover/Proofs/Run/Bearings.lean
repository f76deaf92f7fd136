import ReefRover.Run.Controller

/-!
This module contains the bearings of a controller: what it goes by when it moves its robot and runs
its program. Trash, score and history are not among them. Each stage of a timestep is described by
what it does to the bearings, and a timestep is taken apart into its stages.
-/

namespace ReefRover

variable {R : Type}

structure Bearings (R : Type) where
  rig : Rig R
  layout : Layout
  coral : List (CoralPiece R)
  phase : RunPhase R
  run : Option (ActiveRun R)
  accumulator : R

def Bearings.contact? [Scalar R] (bearings : Bearings R) : Option (Contact R) :=
  Contact.withCoral? bearings.rig.robot.position bearings.layout.factor bearings.coral

namespace Ocean

variable [Scalar R]

theorem trySpawn_reef (ocean : Ocean R) (most : Nat) :
    (ocean.trySpawn most).2.layout = ocean.layout ∧
      (ocean.trySpawn most).2.coral = ocean.coral := by
  unfold trySpawn
  split
  . exact ⟨rfl, rfl⟩
  . exact ⟨rfl, rfl⟩

theorem tick_reef (ocean : Ocean R) (settings : Settings R) (spawning : Bool) (dt : R) :
    (ocean.tick settings spawning dt).2.layout = ocean.layout ∧
      (ocean.tick settings spawning dt).2.coral = ocean.coral := by
  unfold tick
  dsimp only
  split
  . exact ⟨rfl, rfl⟩
  . split
    . exact trySpawn_reef _ settings.maxTrash
    . exact ⟨rfl, rfl⟩

end Ocean

namespace Controller

def bearings (c : Controller R) : Bearings R :=
  { rig := c.rig
    layout := c.ocean.layout
    coral := c.ocean.coral
    phase := c.phase
    run := c.run
    accumulator := c.accumulator }

theorem foldl_kept {α β : Type} (f : Controller R → α → Controller R) (g : Controller R → β)
    (hf : ∀ c a, g (f c a) = g c) (as : List α) (c : Controller R) :
    g (as.foldl f c) = g c := by
  induction as generalizing c with
  | nil => rfl
  | cons a as ih =>
    rw [List.foldl_cons, ih]
    exact hf c a

theorem foldl_appended {α β : Type} (f : Controller R → α → Controller R)
    (g : Controller R → List β) (entry : α → β) (hf : ∀ c a, g (f c a) = g c ++ [entry a])
    (as : List α) (c : Controller R) : g (as.foldl f c) = g c ++ as.map entry := by
  induction as generalizing c with
  | nil => exact (List.append_nil _).symm
  | cons a as ih =>
    rw [List.foldl_cons, ih, hf, List.append_assoc]
    rfl

theorem bearings_finish (c : Controller R) (outcome : RunOutcome R) :
    (c.finish outcome).bearings =
      match c.bearings.run with
      | none => c.bearings
      | some _ =>
        { c.bearings with
          rig := { c.bearings.rig with motion := none, cancelled := true }
          phase := .finished outcome
          run := none } := by
  have hrun : c.bearings.run = c.run := rfl
  rw [hrun]
  unfold finish
  cases c.run with
  | none => rfl
  | some run => rfl

variable [Scalar R]

def contact? (c : Controller R) : Option (Contact R) :=
  c.bearings.contact?

/-! ### The stages of a timestep -/

/-- Looks at the robot's pose if it is a new one, and goes on unless coral ends the run. -/
def unlessCoral (c : Controller R) (before : Pose R) (goOn : Controller R → Controller R) :
    Controller R :=
  match c.observeIfMoved before with
  | (true, c) => c.finish .collision
  | (false, c) => goOn c

end Controller

def ActiveRun.later [Scalar R] (run : ActiveRun R) (dt : R) : ActiveRun R :=
  { run with clock := run.clock + dt }

namespace Controller

variable [Scalar R]

def moved (c : Controller R) (run : ActiveRun R) (dt : R) : Controller R :=
  { c.tickOcean dt with run := some (run.later dt) }.moveRobot dt

def worked (c : Controller R) (run : ActiveRun R) (dt : R) : Controller R :=
  let (result, c') := c.runProgram run dt
  c'.unlessCoral c.robot.pose fun c => c.settle result

theorem bearings_tickOcean (c : Controller R) (dt : R) :
    (c.tickOcean dt).bearings = c.bearings := by
  obtain ⟨hlayout, hcoral⟩ := c.ocean.tick_reef c.settings c.game.isSpawningTrash dt
  have hreef : ({ c with ocean :=
      (c.ocean.tick c.settings c.game.isSpawningTrash dt).2 } : Controller R).bearings =
      c.bearings := by
    unfold bearings
    dsimp only
    rw [hlayout, hcoral]
  unfold tickOcean
  dsimp only
  split
  . exact hreef
  . exact hreef

theorem run_tickOcean (c : Controller R) (dt : R) : (c.tickOcean dt).run = c.run :=
  congrArg Bearings.run (c.bearings_tickOcean dt)

theorem rig_tickOcean (c : Controller R) (dt : R) : (c.tickOcean dt).rig = c.rig :=
  congrArg Bearings.rig (c.bearings_tickOcean dt)

theorem tick_of_run_eq_none {c : Controller R} (hrun : c.run = none) (dt : R) :
    c.tick dt = c.tickOcean dt := by
  rw [← c.run_tickOcean dt] at hrun
  unfold tick
  dsimp only
  rw [hrun]

theorem tick_of_run {c : Controller R} {run : ActiveRun R} (hrun : c.run = some run) (dt : R) :
    c.tick dt = (c.moved run dt).unlessCoral c.robot.pose fun c => c.worked (run.later dt) dt := by
  have hpose : c.robot.pose = (c.tickOcean dt).robot.pose := by
    unfold robot
    rw [rig_tickOcean]
  rw [← c.run_tickOcean dt] at hrun
  unfold tick
  dsimp only
  rw [hrun, hpose]
  rfl

theorem bearings_moved (c : Controller R) (run : ActiveRun R) (dt : R) :
    (c.moved run dt).bearings =
      { c.bearings with rig := (c.rig.step dt).2, run := some (run.later dt) } := by
  have hocean := c.bearings_tickOcean dt
  have hrig := c.rig_tickOcean dt
  unfold moved moveRobot
  dsimp only
  rw [hrig, ← hocean]
  rfl

theorem robot_moved (c : Controller R) (run : ActiveRun R) (dt : R) :
    (c.moved run dt).robot = (c.rig.step dt).2.robot :=
  congrArg (fun bearings => bearings.rig.robot) (c.bearings_moved run dt)

theorem isRunning_moved (c : Controller R) (run : ActiveRun R) (dt : R) :
    (c.moved run dt).isRunning = c.isRunning :=
  congrArg (fun bearings => bearings.phase.isRunning) (c.bearings_moved run dt)

theorem reef_moved (c : Controller R) (run : ActiveRun R) (dt : R) :
    (c.moved run dt).ocean.layout = c.ocean.layout ∧
      (c.moved run dt).ocean.coral = c.ocean.coral :=
  ⟨congrArg Bearings.layout (c.bearings_moved run dt),
    congrArg Bearings.coral (c.bearings_moved run dt)⟩

/-! ### Looks at the pose -/

def collected (c : Controller R) : Controller R :=
  let seen := c.ocean.observe c.game c.robot.position
  seen.pickups.foldl pickUp { c with ocean := seen.ocean, game := seen.game }

theorem observe_eq (c : Controller R) : c.observe =
    match (c.ocean.observe c.game c.robot.position).contact with
    | some contact =>
      if c.collected.isRunning then
        let c := c.collected.note (.coralHit contact.index c.collected.robot.x c.collected.robot.y)
        (true, c.emit (.coralHit contact.index))
      else
        (false, c.collected)
    | none => (false, c.collected) :=
  rfl

theorem bearings_collected (c : Controller R) : c.collected.bearings = c.bearings := by
  unfold collected
  exact foldl_kept pickUp bearings (fun _ _ => rfl) _ _

theorem settings_collected (c : Controller R) : c.collected.settings = c.settings :=
  foldl_kept pickUp settings (fun _ _ => rfl) _ _

theorem ocean_collected (c : Controller R) :
    c.collected.ocean = (c.ocean.observe c.game c.robot.position).ocean :=
  foldl_kept pickUp ocean (fun _ _ => rfl) _ _

theorem run_collected (c : Controller R) : c.collected.run = c.run :=
  congrArg Bearings.run c.bearings_collected

theorem robot_collected (c : Controller R) : c.collected.robot = c.robot :=
  congrArg (fun bearings => bearings.rig.robot) c.bearings_collected

theorem isRunning_collected (c : Controller R) : c.collected.isRunning = c.isRunning :=
  congrArg (fun bearings => bearings.phase.isRunning) c.bearings_collected

def crashed (c : Controller R) (contact : Contact R) : Controller R :=
  (c.collected.note (.coralHit contact.index c.robot.x c.robot.y)).emit (.coralHit contact.index)

theorem observe_of_contact {c : Controller R} {contact : Contact R}
    (hcontact : c.contact? = some contact) (hrunning : c.isRunning = true) :
    c.observe = (true, c.crashed contact) := by
  have hseen : (c.ocean.observe c.game c.robot.position).contact = some contact := hcontact
  rw [observe_eq, hseen]
  dsimp only
  rw [isRunning_collected, if_pos hrunning, robot_collected]
  rfl

theorem observe_of_no_contact {c : Controller R} (hcontact : c.contact? = none) :
    c.observe = (false, c.collected) := by
  have hseen : (c.ocean.observe c.game c.robot.position).contact = none := hcontact
  rw [observe_eq, hseen]

theorem observeIfMoved_of_contact {c : Controller R} {contact : Contact R} {before : Pose R}
    (hcontact : c.contact? = some contact) (hrunning : c.isRunning = true)
    (hpose : (c.robot.pose == before) = false) :
    c.observeIfMoved before = (true, c.crashed contact) := by
  unfold observeIfMoved
  rw [hpose, if_neg Bool.false_ne_true, observe_of_contact hcontact hrunning]

theorem observeIfMoved_of_no_contact {c : Controller R} (hcontact : c.contact? = none)
    (before : Pose R) :
    ∃ c', c.observeIfMoved before = (false, c') ∧ c'.bearings = c.bearings := by
  unfold observeIfMoved
  split
  . exact ⟨c, rfl, rfl⟩
  . exact ⟨c.collected, observe_of_no_contact hcontact, c.bearings_collected⟩

theorem bearings_observe (c : Controller R) : c.observe.2.bearings = c.bearings := by
  rw [observe_eq]
  split
  . split
    . exact c.bearings_collected
    . exact c.bearings_collected
  . exact c.bearings_collected

theorem bearings_observeIfMoved (c : Controller R) (before : Pose R) :
    (c.observeIfMoved before).2.bearings = c.bearings := by
  unfold observeIfMoved
  split
  . rfl
  . exact c.bearings_observe

theorem fatal_observe (c : Controller R) :
    c.observe.1 = (c.contact?.isSome && c.isRunning) := by
  cases hcontact : c.contact? with
  | none =>
    rw [observe_of_no_contact hcontact]
    rfl
  | some contact =>
    cases hrunning : c.isRunning with
    | true =>
      rw [observe_of_contact hcontact hrunning]
      rfl
    | false =>
      have hseen : (c.ocean.observe c.game c.robot.position).contact = some contact := hcontact
      rw [observe_eq, hseen]
      dsimp only
      rw [isRunning_collected, hrunning]
      rfl

theorem bearings_runProgram (c : Controller R) (run : ActiveRun R) (dt : R) :
    let around : Surroundings R := { scale := c.ocean.layout.factor, clock := run.clock }
    let machine : Machine R := { toInterpreter := run.interpreter, toRig := c.rig }
    let machine' := (machine.advance around dt).1
    (c.runProgram run dt).2.bearings =
      { c.bearings with
        rig := machine'.toRig
        run := some { run with interpreter := machine'.toInterpreter } } := by
  intro around machine machine'
  unfold runProgram
  dsimp only
  rw [← Array.foldl_toList]
  exact foldl_kept (fun c text => c.note (.console text)) bearings (fun _ _ => rfl) _ _

theorem runProgram_kept {β : Type} (g : Controller R → β)
    (hg : ∀ (c : Controller R) (rig : Rig R) (run : Option (ActiveRun R)),
      g { c with rig, run } = g c)
    (hnote : ∀ (c : Controller R) (notice : Notice R), g (c.note notice) = g c)
    (c : Controller R) (run : ActiveRun R) (dt : R) : g (c.runProgram run dt).2 = g c := by
  unfold runProgram
  dsimp only
  rw [← Array.foldl_toList, foldl_kept _ g fun c text => hnote c (.console text)]
  exact hg c _ _

/-! ### The end of a timestep -/

omit [Scalar R] in
theorem finish_induction {P : Controller R → Prop}
    (hkept : ∀ c d : Controller R, d.settings = c.settings → d.ocean = c.ocean →
      d.robot = c.robot → P c → P d)
    {c : Controller R} (hc : P c) (outcome : RunOutcome R) : P (c.finish outcome) := by
  apply hkept c _ _ _ _ hc
  all_goals
    unfold finish
    split
    . rfl
    . rfl

omit [Scalar R] in
theorem settle_cases (result : Except (ExecutionError R) Progress) :
    (∀ c : Controller R, c.settle result = c) ∨
      ∃ outcome, outcome ≠ .collision ∧ ∀ c : Controller R, c.settle result = c.finish outcome := by
  match result with
  | .ok .pending | .ok .cancelled => exact .inl fun _ => rfl
  | .ok .finished => exact .inr ⟨.completed, nofun, fun _ => rfl⟩
  | .ok .stopped => exact .inr ⟨.stopped, nofun, fun _ => rfl⟩
  | .error e => exact .inr ⟨.failed e, nofun, fun _ => rfl⟩

omit [Scalar R] in
theorem ocean_finish (c : Controller R) (outcome : RunOutcome R) :
    (c.finish outcome).ocean = c.ocean :=
  finish_induction (P := fun d => d.ocean = c.ocean)
    (fun _ _ _ hocean _ hd => hocean.trans hd) rfl outcome

omit [Scalar R] in
theorem ocean_settle (c : Controller R) (result : Except (ExecutionError R) Progress) :
    (c.settle result).ocean = c.ocean := by
  rcases settle_cases result with hgoesOn | ⟨outcome, -, hends⟩
  . rw [hgoesOn]
  . rw [hends]
    exact c.ocean_finish outcome

theorem ocean_unlessCoral {c : Controller R} {before : Pose R}
    {goOn : Controller R → Controller R} (hpose : (c.robot.pose == before) = false)
    (hgoOn : ∀ d, (goOn d).ocean = d.ocean) :
    (c.unlessCoral before goOn).ocean = c.collected.ocean := by
  have hlooked : (c.observeIfMoved before).2.ocean = c.collected.ocean := by
    unfold observeIfMoved
    rw [hpose, if_neg Bool.false_ne_true, observe_eq]
    split
    . split
      . rfl
      . rfl
    . rfl
  unfold unlessCoral
  split
  . next d hseen =>
    rw [hseen] at hlooked
    exact (d.ocean_finish _).trans hlooked
  . next d hseen =>
    rw [hseen] at hlooked
    exact (hgoOn d).trans hlooked

/-! ### Frames -/

section Frames

variable {P : Controller R → Prop} (hhosts : ∀ c accumulator, P c → P { c with accumulator })
  (htick : ∀ c, P c → P (c.tick Tuning.timestep))

include hhosts htick

theorem substeps_induction (most : Nat) (c : Controller R) (hc : P c) : P (substeps most c).2 := by
  induction most generalizing c with
  | zero => exact hc
  | succ most ih =>
    unfold substeps
    split
    . apply ih
      apply hhosts
      exact htick c hc
    . exact hc

theorem advance_induction (c : Controller R) (frame : R) (hc : P c) : P (c.advance frame).2 := by
  unfold advance
  split
  . have hsteps := substeps_induction hhosts htick Tuning.maxSubsteps
      { c with accumulator := c.accumulator + Scalar.lesser frame Tuning.maxFrame } (hhosts _ _ hc)
    dsimp only
    split
    . exact hhosts _ _ hsteps
    . exact hsteps
  . exact hc

end Frames

end Controller

end ReefRover
