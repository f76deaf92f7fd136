import Mathlib
import ReefRover.Proofs.Ocean.Enlarged
import ReefRover.Proofs.Run.Lockstep
import ReefRover.Proofs.Run.Move

/-!
This module contains the proof that the world scales with the layout. Two controllers that differ in
the layout only make the same run of the same program, with all places and sizes stretched by the
same factor, unless a condition of the program reads where the robot is.
-/

namespace ReefRover

open Scalar

variable {R : Type}

namespace Controller

structure Plain (c : Controller R) : Prop where
  layout_eq : c.ocean.layout = .normal
  placeless : ∀ run, c.run = some run → run.interpreter.script.Placeless

namespace Plain

variable {c d : Controller R}

theorem of_bearings (h : c.Plain) (hbearings : d.bearings = c.bearings) : d.Plain := by
  have hlayout : d.ocean.layout = c.ocean.layout := congrArg Bearings.layout hbearings
  have hrun : d.run = c.run := congrArg Bearings.run hbearings
  exact ⟨hlayout.trans h.layout_eq, hrun ▸ h.placeless⟩

theorem finish (h : c.Plain) (outcome : RunOutcome R) : (c.finish outcome).Plain := by
  have hbearings := c.bearings_finish outcome
  cases hrun : c.bearings.run with
  | none =>
    rw [hrun] at hbearings
    exact h.of_bearings hbearings
  | some run =>
    rw [hrun] at hbearings
    have hlayout : (c.finish outcome).ocean.layout = c.ocean.layout :=
      congrArg Bearings.layout hbearings
    have hnone : (c.finish outcome).run = none := congrArg Bearings.run hbearings
    exact ⟨hlayout.trans h.layout_eq, by rw [hnone]; nofun⟩

variable [Scalar R]

theorem moved (h : c.Plain) {run : ActiveRun R} (hrun : c.run = some run) (dt : R) :
    (c.moved run dt).Plain := by
  have hrun' : (c.moved run dt).run = some (run.later dt) :=
    congrArg Bearings.run (c.bearings_moved run dt)
  refine ⟨(c.reef_moved run dt).1.trans h.layout_eq, ?_⟩
  rw [hrun']
  rintro _ ⟨⟩
  exact h.placeless run hrun

theorem runProgram (h : c.Plain) {run : ActiveRun R}
    (hscript : run.interpreter.script.Placeless) (dt : R) : (c.runProgram run dt).2.Plain := by
  let machine : Machine R := { toInterpreter := run.interpreter, toRig := c.rig }
  let around : Surroundings R := { scale := c.ocean.layout.factor, clock := run.clock }
  have hbearings := c.bearings_runProgram run dt
  have hlayout : (c.runProgram run dt).2.ocean.layout = c.ocean.layout :=
    congrArg Bearings.layout hbearings
  have hrun : (c.runProgram run dt).2.run =
      some { run with interpreter := (machine.advance around dt).1.toInterpreter } :=
    congrArg Bearings.run hbearings
  refine ⟨hlayout.trans h.layout_eq, ?_⟩
  rw [hrun]
  rintro _ ⟨⟩
  dsimp only
  rw [machine.script_advance around dt]
  exact hscript

theorem stagewise (dt : R) : Stagewise Plain dt where
  finish := finish
  look := fun {c} h before => h.of_bearings (c.bearings_observeIfMoved before)
  program := fun h hrun => h.runProgram (h.placeless _ hrun) dt

theorem tick (h : c.Plain) (dt : R) : (c.tick dt).Plain :=
  (stagewise dt).tick (fun _ => h.of_bearings (c.bearings_tickOcean dt)) fun _ hrun =>
    h.moved hrun dt

end Plain

end Controller

variable [Scalar R]

def Notice.enlarged : Notice R → Notice R
  | .reefGenerated pieces _ => .reefGenerated pieces .enlarged
  | .ready _ seed => .ready .enlarged seed
  | .coralHit index x y => .coralHit index (stretched x) (stretched y)
  | .startRefused => .startRefused
  | .layoutRefused => .layoutRefused
  | .layoutSet layout => .layoutSet layout
  | .runStarted instructions bodies => .runStarted instructions bodies
  | .runEnded outcome => .runEnded outcome
  | .trashSpawned id => .trashSpawned id
  | .trashCollected id total => .trashCollected id total
  | .console text => .console text

def Entry.enlarged : Entry R → Entry R
  | .notice n => .notice n.enlarged
  | .event e => .event e
  | .report listener r => .report listener r

namespace Controller

def enlarged (c : Controller R) : Controller R :=
  { c with
    settings := c.settings.enlarged
    rig := c.rig.enlarged
    ocean := c.ocean.enlarged
    journal := c.journal.map Entry.enlarged }

theorem note_enlarged (c : Controller R) (notice : Notice R) :
    c.enlarged.note notice.enlarged = (c.note notice).enlarged := by
  unfold note enlarged
  dsimp only
  rw [Array.map_push]
  rfl

theorem emit_enlarged (c : Controller R) (event : GameEvent R) :
    c.enlarged.emit event = (c.emit event).enlarged := by
  unfold emit enlarged
  dsimp only
  rw [Array.map_push]
  rfl

theorem report_enlarged (c : Controller R) (report : RunReport R) :
    c.enlarged.report report = (c.report report).enlarged := by
  unfold Controller.report enlarged
  dsimp only
  rw [Array.map_append, List.map_toArray (l := List.map _ _), List.map_map]
  rfl

theorem finish_enlarged (c : Controller R) (outcome : RunOutcome R) :
    c.enlarged.finish outcome = (c.finish outcome).enlarged := by
  cases hrun : c.run with
  | none =>
    have hrun' : c.enlarged.run = none := hrun
    rw [finish_of_run_eq_none hrun, finish_of_run_eq_none hrun']
  | some run =>
    have hsome : c.run.isSome = true := Option.isSome_of_eq_some hrun
    have hsome' : c.enlarged.run.isSome = true := hsome
    have hended := note_enlarged (c.ended outcome) (.runEnded outcome)
    have hgame : c.enlarged.game = c.game := rfl
    rw [finish_eq hsome, finish_eq hsome', ← report_enlarged, ← emit_enlarged, ← hended, hgame]
    rfl

theorem pickUp_enlarged (c : Controller R) (pickup : Pickup) :
    c.enlarged.pickUp pickup = (c.pickUp pickup).enlarged := by
  have hnoted := c.note_enlarged (.trashCollected pickup.id pickup.total)
  unfold pickUp
  rw [← emit_enlarged, ← hnoted]
  rfl

def gone (c : Controller R) (run : ActiveRun R)
    (advanced : Machine R × Except (ExecutionError R) Progress) :
    Except (ExecutionError R) Progress × Controller R :=
  let machine := advanced.1
  let c :=
    { c with rig := machine.toRig, run := some { run with interpreter := machine.toInterpreter } }
  (advanced.2, machine.console.foldl (fun c text => c.note (.console text)) c)

theorem runProgram_eq (c : Controller R) (run : ActiveRun R) (dt : R) :
    let machine : Machine R := { toInterpreter := run.interpreter, toRig := c.rig }
    c.runProgram run dt = c.gone run (machine.advance (c.ocean.layout.around run.clock) dt) :=
  rfl

theorem gone_enlarged (c : Controller R) (run : ActiveRun R)
    (advanced : Machine R × Except (ExecutionError R) Progress) :
    c.enlarged.gone run (advanced.1.enlarged, advanced.2) =
      ((c.gone run advanced).1, (c.gone run advanced).2.enlarged) := by
  let gone : Controller R :=
    { c with
      rig := advanced.1.toRig
      run := some { run with interpreter := advanced.1.toInterpreter } }
  have hnoted : advanced.1.console.foldl (fun c text => c.note (.console text)) gone.enlarged =
      (advanced.1.console.foldl (fun c text => c.note (.console text)) gone).enlarged :=
    Array.foldl_hom enlarged fun c text => c.note_enlarged (.console text)
  exact congrArg (Prod.mk advanced.2) hnoted

def blank (settings : Settings R) (seed : UInt64) : Controller R :=
  let ocean := Ocean.empty settings.layout seed
  { settings
    rig := .atRest ocean.center
    game := {}
    ocean
    phase := .idle
    run := none
    accumulator := zero
    events := #[]
    listeners := 0
    journal := #[] }

theorem new_eq (settings : Settings R) (session : UInt64) :
    let seed := settings.seed.getD session
    new settings session = (blank settings seed).growReef.note (.ready settings.layout seed) :=
  rfl

theorem plain_start {settings : Settings R} (h : settings.layout = .normal) (session : UInt64)
    {program : Program R} (hprogram : program.Placeless) :
    ((new settings session).start program).2.Plain := by
  refine ⟨h, ?_⟩
  rintro _ ⟨⟩
  exact hprogram.script

variable [Stretches R]

theorem tickOcean_enlarged {c : Controller R} (h : c.ocean.layout = .normal) (dt : R) :
    c.enlarged.tickOcean dt = (c.tickOcean dt).enlarged := by
  have htick : c.enlarged.ocean.tick c.enlarged.settings c.enlarged.game.isSpawningTrash dt =
      ((c.ocean.tick c.settings c.game.isSpawningTrash dt).1,
        (c.ocean.tick c.settings c.game.isSpawningTrash dt).2.enlarged) :=
    Ocean.tick_enlarged h c.settings c.game.isSpawningTrash dt
  unfold tickOcean
  rw [htick]
  rcases c.ocean.tick c.settings c.game.isSpawningTrash dt with ⟨spawned, ocean⟩
  cases spawned with
  | none => rfl
  | some id =>
    have hnoted := note_enlarged { c with ocean } (.trashSpawned id)
    dsimp only
    rw [← emit_enlarged, ← hnoted]
    rfl

theorem seen_enlarged {c : Controller R} (h : c.ocean.layout = .normal) :
    c.enlarged.ocean.observe c.enlarged.game c.enlarged.robot.position =
      { c.ocean.observe c.game c.robot.position with
        ocean := (c.ocean.observe c.game c.robot.position).ocean.enlarged
        contact := (c.ocean.observe c.game c.robot.position).contact.map Contact.enlarged } :=
  Ocean.observe_enlarged h c.game c.robot.position

theorem collected_enlarged {c : Controller R} (h : c.ocean.layout = .normal) :
    c.enlarged.collected = c.collected.enlarged := by
  let seen := c.ocean.observe c.game c.robot.position
  let looking : Controller R := { c with ocean := seen.ocean, game := seen.game }
  have hpicked : seen.pickups.foldl pickUp looking.enlarged =
      (seen.pickups.foldl pickUp looking).enlarged :=
    List.foldl_hom enlarged pickUp_enlarged
  unfold collected
  rw [seen_enlarged h]
  exact hpicked

theorem observe_enlarged {c : Controller R} (h : c.ocean.layout = .normal) :
    c.enlarged.observe = (c.observe.1, c.observe.2.enlarged) := by
  rw [observe_eq, observe_eq, collected_enlarged h, seen_enlarged h]
  dsimp only
  cases (c.ocean.observe c.game c.robot.position).contact with
  | none => rfl
  | some contact =>
    have hrunning : c.collected.enlarged.isRunning = c.collected.isRunning := rfl
    have hnoted := c.collected.note_enlarged
      (.coralHit contact.index c.collected.robot.x c.collected.robot.y)
    dsimp only [Option.map]
    rw [hrunning]
    split
    . dsimp only
      rw [← emit_enlarged, ← hnoted]
      rfl
    . rfl

theorem observeIfMoved_enlarged {c : Controller R} (h : c.ocean.layout = .normal)
    (before : Pose R) :
    c.enlarged.observeIfMoved before.enlarged =
      ((c.observeIfMoved before).1, (c.observeIfMoved before).2.enlarged) := by
  have hpose : c.enlarged.robot.pose = c.robot.pose.enlarged := rfl
  unfold observeIfMoved
  rw [hpose, Pose.beq_enlarged, observe_enlarged h]
  split
  . rfl
  . rfl

theorem moved_enlarged {c : Controller R} (h : c.ocean.layout = .normal) (run : ActiveRun R)
    (dt : R) : c.enlarged.moved run dt = (c.moved run dt).enlarged := by
  have hstep := (c.tickOcean dt).rig.step_enlarged dt
  unfold moved moveRobot
  rw [tickOcean_enlarged h]
  exact congrArg (fun stepped : MotionStatus × Rig R =>
    { (c.tickOcean dt).enlarged with run := some (run.later dt), rig := stepped.2 }) hstep

theorem runProgram_enlarged {c : Controller R} (h : c.ocean.layout = .normal) {run : ActiveRun R}
    (hscript : run.interpreter.script.Placeless) (dt : R) :
    c.enlarged.runProgram run dt =
      ((c.runProgram run dt).1, (c.runProgram run dt).2.enlarged) := by
  let machine : Machine R := { toInterpreter := run.interpreter, toRig := c.rig }
  have hadvance := machine.advance_enlarged hscript run.clock dt
  rw [runProgram_eq, runProgram_eq, h]
  change c.enlarged.gone run (machine.enlarged.advance (Layout.enlarged.around run.clock) dt) = _
  rw [hadvance]
  exact c.gone_enlarged run _

theorem lockstep_enlarged (dt : R) :
    Lockstep Pose.enlarged (fun c c' => c' = c.enlarged ∧ c.Plain) dt where
  pose_eq := by
    rintro c _ ⟨rfl, -⟩
    rfl
  finish := by
    rintro c _ ⟨rfl, h⟩ outcome
    exact ⟨c.finish_enlarged outcome, h.finish outcome⟩
  look := by
    rintro c _ ⟨rfl, h⟩ before
    rw [observeIfMoved_enlarged h.layout_eq]
    exact ⟨rfl, rfl, (Plain.stagewise dt).look h before⟩
  program := by
    rintro c _ run ⟨rfl, h⟩ hrun
    rw [runProgram_enlarged h.layout_eq (h.placeless run hrun)]
    exact ⟨rfl, rfl, (Plain.stagewise dt).program h hrun⟩

theorem Plain.tick_enlarged {c : Controller R} (h : c.Plain) (dt : R) :
    c.enlarged.tick dt = (c.tick dt).enlarged := by
  have hrun : c.enlarged.run = c.run := rfl
  have hpose : c.enlarged.robot.pose = c.robot.pose.enlarged := rfl
  have hticked : c.enlarged.tick dt = (c.tick dt).enlarged ∧ (c.tick dt).Plain := by
    apply (lockstep_enlarged dt).tick hrun hpose
    . intro _
      exact ⟨tickOcean_enlarged h.layout_eq dt, h.of_bearings (c.bearings_tickOcean dt)⟩
    . intro run hrun
      exact ⟨moved_enlarged h.layout_eq run dt, h.moved hrun dt⟩
  exact hticked.1

/-! ### Starts -/

theorem growReef_enlarged {c : Controller R} (h : c.ocean.layout = .normal) :
    c.enlarged.growReef = c.growReef.enlarged := by
  have hgrown : c.enlarged.ocean.growReef = c.ocean.growReef.enlarged := Ocean.growReef_enlarged h
  have hnoted := note_enlarged { c with ocean := c.ocean.growReef }
    (.reefGenerated c.ocean.growReef.coral.length c.ocean.growReef.layout)
  have hlength : c.ocean.growReef.enlarged.coral.length = c.ocean.growReef.coral.length :=
    List.length_map _
  unfold growReef
  dsimp only
  rw [hgrown, hlength]
  exact hnoted

theorem launched_enlarged {c : Controller R} (h : c.ocean.layout = .normal) (script : Script R) :
    c.enlarged.launched script = (c.launched script).enlarged := by
  have hcenter : c.enlarged.ocean.center = c.ocean.center.enlarged := Ocean.center_enlarged h
  unfold launched
  rw [hcenter]
  rfl

theorem start_enlarged {c : Controller R} (h : c.ocean.layout = .normal) (program : Program R) :
    (c.enlarged.start program).2 = (c.start program).2.enlarged := by
  have hrunning : c.enlarged.isRunning = c.isRunning := rfl
  unfold start
  rw [hrunning]
  split
  . exact c.note_enlarged .startRefused
  . have hnoted := note_enlarged (c.launched (Script.ofProgram program))
      (.runStarted (Script.ofProgram program).instrCount (Script.ofProgram program).bodyCount)
    rw [← launched_enlarged h] at hnoted
    exact hnoted

theorem blank_enlarged {settings : Settings R} (h : settings.layout = .normal) (seed : UInt64) :
    blank settings.enlarged seed = (blank settings seed).enlarged := by
  have hcenter : (Ocean.empty .enlarged seed : Ocean R).center =
      (Ocean.empty settings.layout seed).center.enlarged :=
    Ocean.center_enlarged h
  have hlayout : settings.enlarged.layout = .enlarged := rfl
  unfold blank enlarged
  dsimp only
  rw [hlayout, hcenter, Array.map_empty]
  rfl

theorem new_enlarged {settings : Settings R} (h : settings.layout = .normal) (session : UInt64) :
    new settings.enlarged session = (new settings session).enlarged := by
  have hseed : settings.enlarged.seed = settings.seed := rfl
  have hnoted := note_enlarged (blank settings (settings.seed.getD session)).growReef
    (.ready settings.layout (settings.seed.getD session))
  rw [new_eq, new_eq, hseed, blank_enlarged h, growReef_enlarged h, ← hnoted]
  rfl

/-! ### Runs -/

theorem Plain.after_enlarged {c : Controller R} (h : c.Plain) (dts : List R) :
    c.enlarged.after (dts.map .tick) = (c.after (dts.map .tick)).enlarged := by
  induction dts generalizing c with
  | nil => rfl
  | cons dt dts ih =>
    have hrest := ih (h.tick dt)
    rw [← h.tick_enlarged] at hrest
    exact hrest

theorem run_enlarged {settings : Settings R} (h : settings.layout = .normal) (session : UInt64)
    {program : Program R} (hprogram : program.Placeless) (dts : List R) :
    ((new settings.enlarged session).start program).2.after (dts.map .tick) =
      (((new settings session).start program).2.after (dts.map .tick)).enlarged := by
  have hlayout : (new settings session).ocean.layout = .normal := h
  rw [new_enlarged h, start_enlarged hlayout]
  exact (plain_start h session hprogram).after_enlarged dts

end Controller

end ReefRover

namespace ReefRover

theorem Point.enlarged_eq [Exact] (p : Point ℝ) :
    p.enlarged = { x := 3 / 2 * p.x, y := 3 / 2 * p.y } := by
  unfold enlarged
  rw [Exact.stretched_eq, Exact.stretched_eq]

namespace Controller

/--
Two controllers of one seed, one on either layout, start the same program, which does not read where
the robot is. Whatever timesteps follow, all places and sizes on the enlarged layout are one and a
half times those on the normal one, and all else is the same.
-/
theorem world_scales [Exact] (settings : Settings ℝ) (session : UInt64) (program : Program ℝ)
    (hprogram : program.Placeless) (dts : List ℝ) :
    let run (layout : Layout) : Controller ℝ :=
      ((new { settings with layout } session).start program).2.after (dts.map .tick)
    let c := run .normal
    let c' := run .enlarged
    c'.robot = { c.robot with x := 3 / 2 * c.robot.x, y := 3 / 2 * c.robot.y } ∧
      c'.ocean.trash = c.ocean.trash.map (fun item =>
        { item with position := { x := 3 / 2 * item.position.x, y := 3 / 2 * item.position.y } }) ∧
      c'.ocean.coral = c.ocean.coral.map (fun piece =>
        { piece with
          position := { x := 3 / 2 * piece.position.x, y := 3 / 2 * piece.position.y }
          radius := 3 / 2 * piece.radius }) ∧
      c'.game = c.game ∧ c'.events = c.events ∧ c'.phase = c.phase := by
  intro run c c'
  let normal : Settings ℝ := { settings with layout := .normal }
  have hnormal : normal.layout = .normal := rfl
  have hrun : c' = c.enlarged := run_enlarged hnormal session hprogram dts
  rw [hrun]
  refine ⟨?_, ?_, ?_, rfl, rfl, rfl⟩
  . have hrobot : c.enlarged.robot = c.robot.enlarged := rfl
    rw [hrobot]
    unfold Robot.enlarged
    rw [Exact.stretched_eq, Exact.stretched_eq]
  . apply List.map_congr_left
    intro item _
    unfold TrashItem.enlarged
    rw [Point.enlarged_eq]
  . apply List.map_congr_left
    intro piece _
    unfold CoralPiece.enlarged
    rw [Point.enlarged_eq, Exact.stretched_eq]

theorem world_scales_on_a_corner :
    let _ : Exact :=
      { facing := fun degrees =>
          (Real.sin (degrees * Real.pi / 180), -Real.cos (degrees * Real.pi / 180))
        isFinite := fun _ => true }
    let settings : Settings ℝ := { Settings.defaults with seed := some 7 }
    let program : Program ℝ :=
      [.ifThen (.compare .lt (.sensor .driveHeading) (.number 1)) [Op.driveDefault .forward],
        Op.turn .left 30, Op.drive .reverse 200 .mm]
    let dts : List ℝ := [1 / 120, 1, 1 / 120, 1 / 4]
    let run (layout : Layout) : Controller ℝ :=
      ((new { settings with layout } 0).start program).2.after (dts.map .tick)
    program.Placeless ∧
      (run .enlarged).robot =
        { (run .normal).robot with
          x := 3 / 2 * (run .normal).robot.x, y := 3 / 2 * (run .normal).robot.y } ∧
      (run .enlarged).phase = (run .normal).phase := by
  intro trig settings program dts run
  have hprogram : program.Placeless := by
    simp [program, Program.Placeless, Program.blocks_eq, Op.bodies, Op.conditions,
      Expr.readsPosition, Sensor.isPosition, Op.driveDefault, Op.turn, Op.drive]
  obtain ⟨hrobot, -, -, -, -, hphase⟩ := world_scales settings 0 program hprogram dts
  exact ⟨hprogram, hrobot, hphase⟩

end Controller

end ReefRover
