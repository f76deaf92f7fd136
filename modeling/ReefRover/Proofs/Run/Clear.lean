import ReefRover.Proofs.Machine.Position
import ReefRover.Proofs.Run.Alike
import ReefRover.Proofs.Run.Collision
import ReefRover.Proofs.Run.Lifecycle

/-!
This module contains the proof that a running robot never rests on coral. Only motions change where
the robot is, and every change is looked at before anything else happens, so the run ends where
coral is. Where the centre of the canvas is clear, all runs start clear of coral and stay so.
-/

namespace ReefRover

variable {R : Type} [Scalar R]

theorem Pose.beq_iff {p q : Pose R} : (p == q) = true ↔
    (p.x == q.x) = true ∧ (p.y == q.y) = true ∧ (p.rotation == q.rotation) = true := by
  have hbeq : (p == q) = (p.x == q.x && (p.y == q.y && p.rotation == q.rotation)) := rfl
  rw [hbeq, Bool.and_eq_true, Bool.and_eq_true]

namespace Controller

/-- The robot is clear of coral while it is on a run, and so is the place where runs start. -/
structure Clear (c : Controller R) : Prop where
  run_isSome : c.run.isSome = c.isRunning
  center : Contact.withCoral? c.ocean.center c.ocean.layout.factor c.ocean.coral = none
  contact : c.isRunning = true → c.contact? = none

variable {c c' : Controller R} {run : ActiveRun R}

theorem contact?_eq_of_pose [Scalar.Metric R] (hlayout : c.ocean.layout = c'.ocean.layout)
    (hcoral : c.ocean.coral = c'.ocean.coral) (hpose : (c.robot.pose == c'.robot.pose) = true) :
    c.contact? = c'.contact? := by
  obtain ⟨hx, hy, -⟩ := Pose.beq_iff.mp hpose
  have hposition : Contact.withCoral? c.robot.position c.ocean.layout.factor c.ocean.coral =
      Contact.withCoral? c'.robot.position c.ocean.layout.factor c.ocean.coral :=
    Contact.withCoral?_congr hx hy _ _
  rw [hlayout, hcoral] at hposition
  unfold contact? Bearings.contact? bearings
  dsimp only
  rw [hlayout, hcoral]
  exact hposition

theorem contact?_runProgram [Tuning.Lasting R] (c : Controller R) (run : ActiveRun R) (dt : R) :
    (c.runProgram run dt).2.contact? = c.contact? := by
  unfold contact? Bearings.contact?
  rw [bearings_runProgram]
  dsimp only
  rw [Machine.position_advance]
  rfl

namespace Clear

theorem isRunning (h : c.Clear) (hrun : c.run = some run) : c.isRunning = true := by
  rw [← h.run_isSome, hrun]
  rfl

theorem of_reef (h : c.Clear) (hlayout : c'.ocean.layout = c.ocean.layout)
    (hcoral : c'.ocean.coral = c.ocean.coral) (hrun : c'.run.isSome = c'.isRunning)
    (hcontact : c'.isRunning = true → c'.contact? = none) : c'.Clear where
  run_isSome := hrun
  center := by
    have hcenter := h.center
    unfold Ocean.center at hcenter ⊢
    rw [hlayout, hcoral]
    exact hcenter
  contact := hcontact

theorem alike (h : c.Clear) (halike : c'.Alike c) : c'.Clear := by
  apply h.of_reef halike.layout_eq halike.coral_eq
  . rw [halike.run_eq, halike.isRunning_eq]
    exact h.run_isSome
  . intro hrunning
    rw [halike.isRunning_eq] at hrunning
    have hcontact : c'.contact? = c.contact? := congrArg Bearings.contact? halike
    rw [hcontact]
    exact h.contact hrunning

theorem idle (h : c.Clear) (hlayout : c'.ocean.layout = c.ocean.layout)
    (hcoral : c'.ocean.coral = c.ocean.coral) (hrun : c'.run = none)
    (hrunning : c'.isRunning = false) : c'.Clear := by
  apply h.of_reef hlayout hcoral
  . rw [hrun, hrunning]
    rfl
  . intro hrunning'
    rw [hrunning] at hrunning'
    cases hrunning'

theorem finish_of_reef (h : c.Clear) (hlayout : c'.ocean.layout = c.ocean.layout)
    (hcoral : c'.ocean.coral = c.ocean.coral) (hrun : c'.run.isSome = true)
    (outcome : RunOutcome R) : (c'.finish outcome).Clear := by
  rw [finish_eq hrun]
  exact h.idle hlayout hcoral rfl rfl

theorem finish (h : c.Clear) (outcome : RunOutcome R) : (c.finish outcome).Clear := by
  cases hrun : c.run with
  | none =>
    rw [finish_of_run_eq_none hrun]
    exact h
  | some run => exact h.finish_of_reef rfl rfl (Option.isSome_of_eq_some hrun) outcome

theorem settle (h : c.Clear) (result : Except (ExecutionError R) Progress) :
    (c.settle result).Clear := by
  rcases settle_cases result with hgoesOn | ⟨outcome, -, hends⟩
  . rw [hgoesOn]
    exact h
  . rw [hends]
    exact h.finish outcome

theorem hosts (h : c.Clear) (accumulator : R) : Clear { c with accumulator } :=
  h.of_reef rfl rfl h.run_isSome h.contact

theorem start (h : c.Clear) (program : Program R) : (c.start program).2.Clear := by
  unfold Controller.start
  split
  . exact h.of_reef rfl rfl h.run_isSome h.contact
  . exact h.of_reef rfl rfl rfl fun _ => h.center

theorem startDecoded (h : c.Clear) (decoded : Except Json.DecodeError (Program R)) :
    (c.startDecoded decoded).2.Clear := by
  rcases c.startDecoded_cases decoded with ⟨program, heq⟩ | ⟨outcome, -, heq⟩
  . rw [heq]
    exact h.start program
  . rw [heq]
    exact (h.start []).finish outcome

theorem reset (h : c.Clear) : c.reset.Clear :=
  (h.finish .stopped).idle rfl rfl (c.run_finish .stopped) rfl

/-! ### Timesteps -/

theorem moved (h : c.Clear) (hrun : c.run = some run) {dt : R}
    (hcontact : (c.moved run dt).contact? = none) : (c.moved run dt).Clear := by
  obtain ⟨hlayout, hcoral⟩ := c.reef_moved run dt
  apply h.of_reef hlayout hcoral
  . rw [isRunning_moved, h.isRunning hrun]
    rfl
  . exact fun _ => hcontact

theorem pose_ne [Scalar.Metric R] (h : c.Clear) (hrun : c.run = some run) {dt : R}
    {contact : Contact R} (hcontact : (c.moved run dt).contact? = some contact) :
    ((c.moved run dt).robot.pose == c.robot.pose) = false := by
  apply Bool.eq_false_of_not_eq_true
  intro hpose
  obtain ⟨hlayout, hcoral⟩ := c.reef_moved run dt
  rw [contact?_eq_of_pose hlayout hcoral hpose, h.contact (h.isRunning hrun)] at hcontact
  cases hcontact

theorem runProgram [Tuning.Lasting R] (h : c.Clear) (hrunning : c.isRunning = true)
    (run : ActiveRun R) (dt : R) : (c.runProgram run dt).2.Clear := by
  have hbearings := c.bearings_runProgram run dt
  apply h.of_reef (congrArg Bearings.layout hbearings) (congrArg Bearings.coral hbearings)
  . have hrun' : (c.runProgram run dt).2.run.isSome = true :=
      congrArg (fun bearings => bearings.run.isSome) hbearings
    have hrunning' : (c.runProgram run dt).2.isRunning = c.isRunning :=
      congrArg (fun bearings => bearings.phase.isRunning) hbearings
    rw [hrun', hrunning', hrunning]
  . intro _
    rw [contact?_runProgram]
    exact h.contact hrunning

/-- The program changes nothing about coral, so the second look of a timestep finds none. -/
theorem second_look [Tuning.Lasting R] (h : c.Clear) (hrunning : c.isRunning = true)
    (run : ActiveRun R) (dt : R) (before : Pose R) :
    ∃ c', (c.runProgram run dt).2.observeIfMoved before = (false, c') ∧ c'.Clear := by
  have hcontact : (c.runProgram run dt).2.contact? = none := by
    rw [contact?_runProgram]
    exact h.contact hrunning
  obtain ⟨c', hlooked, halike⟩ := observeIfMoved_of_no_contact hcontact before
  exact ⟨c', hlooked, (h.runProgram hrunning run dt).alike halike⟩

theorem worked [Tuning.Lasting R] (h : c.Clear) (hrunning : c.isRunning = true)
    (run : ActiveRun R) (dt : R) : (c.worked run dt).Clear := by
  obtain ⟨c', hlooked, hclear⟩ := h.second_look hrunning run dt c.robot.pose
  unfold Controller.worked unlessCoral
  dsimp only
  rw [hlooked]
  exact hclear.settle _

theorem first_look [Scalar.Metric R] (h : c.Clear) (hrun : c.run = some run) (dt : R) :
    (∃ contact, (c.moved run dt).contact? = some contact) ∨
      ∃ c', (c.moved run dt).observeIfMoved c.robot.pose = (false, c') ∧ c'.Clear ∧
        c'.isRunning = true := by
  cases hcontact : (c.moved run dt).contact? with
  | some contact => exact .inl ⟨contact, rfl⟩
  | none =>
    right
    obtain ⟨c', hlooked, halike⟩ := observeIfMoved_of_no_contact hcontact c.robot.pose
    have hrunning : c'.isRunning = true := by
      rw [Alike.isRunning_eq halike, isRunning_moved]
      exact h.isRunning hrun
    exact ⟨c', hlooked, (h.moved hrun hcontact).alike halike, hrunning⟩

theorem crashes [Scalar.Metric R] (h : c.Clear) (hrun : c.run = some run) {dt : R}
    {contact : Contact R} (hcontact : (c.moved run dt).contact? = some contact) :
    c.Crashes run dt contact :=
  crashes_of_contact hrun (h.isRunning hrun) (h.pose_ne hrun hcontact) hcontact

variable [Scalar.Metric R] [Tuning.Lasting R]

theorem tick (h : c.Clear) (dt : R) : (c.tick dt).Clear := by
  cases hrun : c.run with
  | none =>
    rw [tick_of_run_eq_none hrun]
    exact h.alike (c.bearings_tickOcean dt)
  | some run =>
    rcases h.first_look hrun dt with ⟨contact, hcontact⟩ | ⟨c', hlooked, hclear, hrunning⟩
    . rw [tick_of_contact hrun (h.isRunning hrun) (h.pose_ne hrun hcontact) hcontact]
      obtain ⟨hlayout, hcoral⟩ := c.reef_moved run dt
      have hcollected := (c.moved run dt).bearings_collected
      have hcrashed : ((c.moved run dt).crashed contact).ocean.layout = c.ocean.layout :=
        (congrArg Bearings.layout hcollected).trans hlayout
      exact h.finish_of_reef hcrashed ((congrArg Bearings.coral hcollected).trans hcoral)
        (congrArg (fun bearings => bearings.run.isSome) hcollected) .collision
    . rw [tick_of_run hrun]
      unfold unlessCoral
      rw [hlooked]
      exact hclear.worked hrunning _ dt

theorem advance (h : c.Clear) (frame : R) : (c.advance frame).2.Clear :=
  advance_induction (fun _ accumulator hd => hd.hosts accumulator) (fun _ hd => hd.tick _) c frame h

/-! ### Commands -/

theorem obey (h : c.Clear) {command : Command R} (hreef : command.growsReef = false) :
    (c.obey command).Clear := by
  cases command with
  | start program => exact h.start program
  | startDecoded decoded => exact h.startDecoded decoded
  | stop => exact h.finish .stopped
  | reset => exact h.reset
  | clear => exact h.reset.of_reef rfl rfl h.reset.run_isSome h.reset.contact
  | setLayout layout => cases hreef
  | listen => exact h.of_reef rfl rfl h.run_isSome h.contact
  | tick dt => exact h.tick dt
  | advance frame => exact h.advance frame
  | drainEvents => exact h.of_reef rfl rfl h.run_isSome h.contact

theorem after (h : c.Clear) {commands : List (Command R)}
    (hreef : ∀ command ∈ commands, command.growsReef = false) : (c.after commands).Clear :=
  after_induction (fun _ hd command hcommand => hd.obey (hreef command hcommand)) h

end Clear

/--
Where the centre of the canvas is clear of coral, a robot on a run is, too. Should it run into
coral, its run ends in that very timestep and before the program has its turn; the look at the pose
that follows the program's turn finds no coral.
-/
theorem clear_of_coral [Scalar.Metric R] [Tuning.Lasting R] (settings : Settings R)
    (session : UInt64) (earlier commands : List (Command R)) :
    let c := (new settings session).after earlier
    c.isRunning = false →
    Contact.withCoral? c.ocean.center c.ocean.layout.factor c.ocean.coral = none →
    (∀ command ∈ commands, command.growsReef = false) →
    let d := c.after commands
    d.isRunning = true →
      Contact.withCoral? d.robot.position d.ocean.layout.factor d.ocean.coral = none ∧
      ∃ run, d.run = some run ∧ ∀ dt,
        (∀ contact,
          Contact.withCoral? (d.rig.step dt).2.robot.position d.ocean.layout.factor
            d.ocean.coral = some contact →
          d.Crashes run dt contact) ∧
        ∀ e, (d.moved run dt).observeIfMoved d.robot.pose = (false, e) →
          ((e.runProgram (run.later dt) dt).2.observeIfMoved e.robot.pose).1 = false := by
  intro c hrunning hcenter hreef d hrunning'
  have hconsistent := consistent_after settings session earlier
  have hc : c.Clear :=
    { run_isSome := hconsistent.run_isSome
      center := hcenter
      contact := by
        intro hrunning'
        rw [hrunning] at hrunning'
        cases hrunning' }
  have hd : d.Clear := hc.after hreef
  have hrun : d.run.isSome = true := hd.run_isSome.trans hrunning'
  obtain ⟨run, hrun⟩ := Option.isSome_iff_exists.mp hrun
  refine ⟨hd.contact hrunning', run, hrun, ?_⟩
  intro dt
  constructor
  . intro contact hcontact
    apply hd.crashes hrun
    unfold contact?
    rw [bearings_moved]
    exact hcontact
  . intro e hlooked
    rcases hd.first_look hrun dt with ⟨contact, hcontact⟩ | ⟨e', hlooked', hclear, hgoing⟩
    . have hmoving : (d.moved run dt).isRunning = true := by
        rw [isRunning_moved]
        exact hrunning'
      rw [observeIfMoved_of_contact hcontact hmoving (hd.pose_ne hrun hcontact)] at hlooked
      cases hlooked
    . rw [hlooked'] at hlooked
      cases hlooked
      obtain ⟨e', hlooked, -⟩ := hclear.second_look hgoing (run.later dt) dt e.robot.pose
      rw [hlooked]

theorem clear_of_coral_until_hit :
    let c := (new (Settings.defaults : Settings Float32) 7).after []
    let commands : List (Command Float32) :=
      [.start [.action (.drive .forward (some 180) none)], .tick 0]
    let d := c.after commands
    c.isRunning = false ∧
      Contact.withCoral? c.ocean.center c.ocean.layout.factor c.ocean.coral = none ∧
      (∀ command ∈ commands, command.growsReef = false) ∧ d.isRunning = true ∧
      ∃ contact,
        Contact.withCoral? (d.rig.step 1).2.robot.position d.ocean.layout.factor
          d.ocean.coral = some contact ∧
        ∃ run, d.run = some run ∧ d.Crashes run 1 contact := by
  intro c commands d
  have hreef : ∀ command ∈ commands, command.growsReef = false := by
    simp [commands, Command.growsReef]
  have hstates :
      Contact.withCoral? c.ocean.center c.ocean.layout.factor c.ocean.coral = none ∧
        d.isRunning = true ∧
        (Contact.withCoral? (d.rig.step 1).2.robot.position d.ocean.layout.factor
          d.ocean.coral).isSome = true := by
    decide +kernel
  obtain ⟨hcenter, hrunning, hcontact⟩ := hstates
  obtain ⟨contact, hcontact⟩ := Option.isSome_iff_exists.mp hcontact
  obtain ⟨-, run, hrun, hticks⟩ :=
    clear_of_coral (Settings.defaults : Settings Float32) 7 [] commands rfl hcenter hreef hrunning
  exact ⟨rfl, hcenter, hreef, hrunning, contact, hcontact, run, hrun, (hticks 1).1 contact hcontact⟩

end Controller

end ReefRover
