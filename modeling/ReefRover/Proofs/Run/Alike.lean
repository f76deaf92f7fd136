import ReefRover.Proofs.Run.Lockstep
import ReefRover.Proofs.Run.Move
import ReefRover.Scalar.Single

/-!
This module contains the proof that trash, score and history never influence the robot. Controllers
with the same bearings keep them alike whatever they are told to do on their reef, and a start
leaves nothing of what was before in the bearings.
-/

namespace ReefRover

variable {R : Type}

def Command.growsReef : Command R → Bool
  | .setLayout _ => true
  | .start _ | .startDecoded _ | .stop | .reset | .clear | .listen | .tick _ | .advance _
  | .drainEvents => false

namespace Controller

/-- Two controllers that differ in trash, score and history only. -/
def Alike (c c' : Controller R) : Prop :=
  c.bearings = c'.bearings

variable {c c' : Controller R}

namespace Alike

theorem rig_eq (h : c.Alike c') : c.rig = c'.rig :=
  congrArg Bearings.rig h

theorem robot_eq (h : c.Alike c') : c.robot = c'.robot :=
  congrArg Rig.robot h.rig_eq

theorem pose_eq (h : c.Alike c') : c'.robot.pose = c.robot.pose :=
  congrArg Robot.pose h.robot_eq.symm

theorem layout_eq (h : c.Alike c') : c.ocean.layout = c'.ocean.layout :=
  congrArg Bearings.layout h

theorem coral_eq (h : c.Alike c') : c.ocean.coral = c'.ocean.coral :=
  congrArg Bearings.coral h

theorem phase_eq (h : c.Alike c') : c.phase = c'.phase :=
  congrArg Bearings.phase h

theorem isRunning_eq (h : c.Alike c') : c.isRunning = c'.isRunning :=
  congrArg RunPhase.isRunning h.phase_eq

theorem run_eq (h : c.Alike c') : c.run = c'.run :=
  congrArg Bearings.run h

theorem accumulator_eq (h : c.Alike c') : c.accumulator = c'.accumulator :=
  congrArg Bearings.accumulator h

theorem hosts (h : c.Alike c') (accumulator : R) :
    Alike { c with accumulator } { c' with accumulator } := by
  have hhosts : { c.bearings with accumulator } = { c'.bearings with accumulator } := by rw [h]
  exact hhosts

theorem finish (h : c.Alike c') (outcome : RunOutcome R) :
    (c.finish outcome).Alike (c'.finish outcome) := by
  unfold Alike
  rw [bearings_finish, bearings_finish, h]

variable [Scalar R]

theorem center_eq (h : c.Alike c') : c.ocean.center = c'.ocean.center := by
  unfold Ocean.center
  rw [h.layout_eq]

/-! ### Timesteps -/

theorem tickOcean (h : c.Alike c') (dt : R) : (c.tickOcean dt).Alike (c'.tickOcean dt) := by
  unfold Alike
  rw [bearings_tickOcean, bearings_tickOcean]
  exact h

theorem moved (h : c.Alike c') (run : ActiveRun R) (dt : R) :
    (c.moved run dt).Alike (c'.moved run dt) := by
  unfold Alike
  rw [bearings_moved, bearings_moved, h, h.rig_eq]

theorem observeIfMoved (h : c.Alike c') (before : Pose R) :
    (c'.observeIfMoved before).1 = (c.observeIfMoved before).1 ∧
      (c.observeIfMoved before).2.Alike (c'.observeIfMoved before).2 := by
  have hcontact : c.contact? = c'.contact? := congrArg Bearings.contact? h
  unfold Controller.observeIfMoved
  rw [h.robot_eq]
  split
  . exact ⟨rfl, h⟩
  . constructor
    . rw [fatal_observe, fatal_observe, hcontact, h.isRunning_eq]
    . unfold Alike
      rw [bearings_observe, bearings_observe]
      exact h

theorem runProgram (h : c.Alike c') (run : ActiveRun R) (dt : R) :
    (c'.runProgram run dt).1 = (c.runProgram run dt).1 ∧
      (c.runProgram run dt).2.Alike (c'.runProgram run dt).2 := by
  constructor
  . unfold Controller.runProgram
    dsimp only
    rw [h.rig_eq, h.layout_eq]
  . unfold Alike
    rw [bearings_runProgram, bearings_runProgram, h.rig_eq, h.layout_eq, h]

theorem lockstep (dt : R) : Lockstep id Alike dt where
  pose_eq := pose_eq
  finish := finish
  look := observeIfMoved
  program := fun h _ => h.runProgram _ dt

theorem tick (h : c.Alike c') (dt : R) : (c.tick dt).Alike (c'.tick dt) :=
  (lockstep dt).tick h.run_eq.symm h.pose_eq (fun _ => h.tickOcean dt) fun run _ => h.moved run dt

theorem substeps (h : c.Alike c') (most : Nat) :
    (substeps most c).1 = (substeps most c').1 ∧
      (substeps most c).2.Alike (substeps most c').2 := by
  induction most generalizing c c' with
  | zero => exact ⟨rfl, h⟩
  | succ most ih =>
    unfold Controller.substeps
    rw [h.accumulator_eq]
    split
    . have htick := h.tick Tuning.timestep
      dsimp only
      rw [htick.accumulator_eq]
      obtain ⟨hcount, hafter⟩ := ih (htick.hosts _)
      exact ⟨congrArg (· + 1) hcount, hafter⟩
    . exact ⟨rfl, h⟩

theorem advance (h : c.Alike c') (frame : R) :
    (c.advance frame).2.Alike (c'.advance frame).2 := by
  unfold Controller.advance
  rw [h.accumulator_eq]
  split
  . have hhosts := h.hosts (c'.accumulator + Scalar.lesser frame Tuning.maxFrame)
    obtain ⟨hcount, hafter⟩ := hhosts.substeps Tuning.maxSubsteps
    dsimp only
    rw [hcount, hafter.accumulator_eq]
    split
    . exact hafter.hosts _
    . exact hafter
  . exact h

/-! ### Commands -/

theorem launched (script : Script R) (hlayout : c.ocean.layout = c'.ocean.layout)
    (hcoral : c.ocean.coral = c'.ocean.coral) : (c.launched script).Alike (c'.launched script) := by
  unfold Alike bearings Controller.launched Ocean.center Ocean.clearTrash
  dsimp only
  rw [hlayout, hcoral]

theorem start (h : c.Alike c') (program : Program R) :
    (c.start program).2.Alike (c'.start program).2 := by
  unfold Controller.start
  rw [h.isRunning_eq]
  split
  . exact h
  . exact launched (Script.ofProgram program) h.layout_eq h.coral_eq

theorem startDecoded (h : c.Alike c') (decoded : Except Json.DecodeError (Program R)) :
    (c.startDecoded decoded).2.Alike (c'.startDecoded decoded).2 := by
  unfold Controller.startDecoded
  cases decoded with
  | ok program => exact h.start program
  | error e =>
    dsimp only
    rw [h.isRunning_eq]
    split
    . exact h
    . exact (h.start []).finish _

theorem reset (h : c.Alike c') : c.reset.Alike c'.reset := by
  have hstop : c.stop.Alike c'.stop := h.finish .stopped
  unfold Alike bearings Controller.reset Ocean.clearTrash
  dsimp only
  rw [hstop.center_eq, hstop.layout_eq, hstop.coral_eq, hstop.run_eq]

theorem obey (h : c.Alike c') {command : Command R} (hreef : command.growsReef = false) :
    (c.obey command).Alike (c'.obey command) := by
  cases command with
  | start program => exact h.start program
  | startDecoded decoded => exact h.startDecoded decoded
  | stop => exact h.finish .stopped
  | reset => exact h.reset
  | clear => exact h.reset
  | setLayout layout => cases hreef
  | listen => exact h
  | tick dt => exact h.tick dt
  | advance frame => exact h.advance frame
  | drainEvents => exact h

theorem after (h : c.Alike c') {commands : List (Command R)}
    (hreef : ∀ command ∈ commands, command.growsReef = false) :
    (c.after commands).Alike (c'.after commands) := by
  induction commands generalizing c c' with
  | nil => exact h
  | cons command commands ih =>
    rw [List.forall_mem_cons] at hreef
    exact ih (h.obey hreef.1) hreef.2

end Alike

variable [Scalar R]

/--
Two controllers on the same reef start the same program. Whatever else they differ in, and whatever
they are both told to do on that reef, their robots, phases and clocks are the same ever after.
-/
theorem robot_eq_of_same_reef (hrunning : c.isRunning = false) (hrunning' : c'.isRunning = false)
    (hlayout : c.ocean.layout = c'.ocean.layout) (hcoral : c.ocean.coral = c'.ocean.coral)
    (program : Program R) (commands : List (Command R))
    (hreef : ∀ command ∈ commands, command.growsReef = false) :
    let d := (c.obey (.start program)).after commands
    let d' := (c'.obey (.start program)).after commands
    d.robot = d'.robot ∧ d.phase = d'.phase ∧ d.runClock = d'.runClock := by
  intro d d'
  have hstart : (c.start program).2.Alike (c'.start program).2 := by
    unfold start
    rw [hrunning, hrunning']
    exact Alike.launched (Script.ofProgram program) hlayout hcoral
  have h : d.Alike d' := hstart.after hreef
  exact ⟨h.robot_eq, h.phase_eq, congrArg (Option.map ActiveRun.clock) h.run_eq⟩

theorem robot_eq_of_one_seed :
    let settings : Settings Float32 := { Settings.defaults with seed := some 7 }
    let calm : Settings Float32 := { settings with trashSpawning := false, maxTrash := 0 }
    let c := (new settings 0).after [.start [.action (.wait none)], .tick 2, .stop]
    let c' := (new calm 1).listen.2
    let program : Program Float32 := [.action (.drive .forward none none)]
    let commands : List (Command Float32) := [.tick 2, .advance 1, .stop, .tick 1]
    let d := (c.obey (.start program)).after commands
    let d' := (c'.obey (.start program)).after commands
    c.isRunning = false ∧ c'.isRunning = false ∧ c.ocean.layout = c'.ocean.layout ∧
      c.ocean.coral = c'.ocean.coral ∧ (∀ command ∈ commands, command.growsReef = false) ∧
      c.ocean ≠ c'.ocean ∧ d.robot = d'.robot ∧ d.phase = d'.phase := by
  intro settings calm c c' program commands d d'
  have hrunning : c.isRunning = false := by decide +kernel
  have hlayout : c.ocean.layout = c'.ocean.layout := by decide +kernel
  have hcoral : c.ocean.coral = c'.ocean.coral := by decide +kernel
  have hreef : ∀ command ∈ commands, command.growsReef = false := by
    simp [commands, Command.growsReef]
  have hocean : c.ocean ≠ c'.ocean := by decide +kernel
  obtain ⟨hrobot, hphase, -⟩ :=
    robot_eq_of_same_reef hrunning rfl hlayout hcoral program commands hreef
  exact ⟨hrunning, rfl, hlayout, hcoral, hreef, hocean, hrobot, hphase⟩

end Controller

end ReefRover
