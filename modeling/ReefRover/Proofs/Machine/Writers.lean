import ReefRover.Proofs.Machine.Cancel
import ReefRover.Proofs.Machine.Idle
import ReefRover.Proofs.Machine.Iterations
import ReefRover.Proofs.Machine.Position
import ReefRover.Proofs.Walk.Simulation

/-!
This module contains the proof that each part of the robot has one writer. Where the robot is
changes by motions alone, and a program turns it on the spot by one kind of block alone, so what a
timestep leaves behind can be read off the blocks of that kind which it executed. An instruction
that fails leaves everything as it found it.
-/

namespace ReefRover

variable {R : Type} [Scalar R]

def Instr.turn? : Instr R → Option R
  | .action block => block.turn?
  | _ => none

namespace Rig

theorem startMotion?_at_once [Tuning.Valid R] {rig rig' : Rig R} {target : MotionTarget R}
    (hcancelled : rig.cancelled = false) (h : rig.startMotion? target Scalar.zero = some rig') :
    rig' = { rig with robot := rig.robot.place (target.resolve rig.robot.pose) } := by
  unfold startMotion? at h
  rw [if_neg (Bool.eq_false_iff.mp hcancelled), if_neg Tuning.Valid.zero_not_lt] at h
  split at h
  . cases h
  . cases h
    rfl

variable [Tuning.Lasting R]

theorem rotation_of_leads [Tuning.Valid R] {rig rig' : Rig R} {around : Surroundings R}
    {action : Action R} {deed : Deed R} (hcancelled : rig.cancelled = false)
    (hdeed : action.deed rig.robot around = .ok deed) (hleads : deed.Leads rig rig') :
    rig'.robot.rotation = action.turn?.getD rig.robot.rotation := by
  have hturns := Action.turns_of_deed hdeed
  cases deed with
  | move target duration =>
    rw [hturns.1, robot_of_lasting hturns.2 hleads]
    rfl
  | place target =>
    obtain ⟨degrees, hturn, rfl⟩ := hturns
    rw [hturn, startMotion?_at_once hcancelled hleads]
    rfl
  | setRobot robot =>
    cases hleads
    rw [hturns.1]
    exact congrArg Pose.rotation hturns.2
  | dropMotion | pause | write =>
    cases hleads
    rw [hturns]
    rfl

theorem goesOn_of_turn {rig : Rig R} {around : Surroundings R} {action : Action R}
    {outcome : Outcome R} {degrees : R} (hturn : action.turn? = some degrees)
    (h : rig.perform around action = .ok outcome) : ∃ rig' line, outcome = .goesOn rig' line := by
  obtain ⟨deed, hdeed, hout⟩ := bind_eq_ok_iff.mp h
  have hturns := Action.turns_of_deed hdeed
  rw [hturn] at hturns
  cases deed with
  | move | setRobot => cases hturns.1
  | dropMotion | pause | write => cases hturns
  | place target =>
    unfold carryOut at hout
    dsimp only at hout
    split at hout
    . cases hout
      exact ⟨_, _, rfl⟩
    . cases hout

end Rig

namespace Machine

/-- The rotation that a step turns the robot to. A step that halts the program turns it to none. -/
def turn? (around : Surroundings R) (m : Machine R) : Option R :=
  match m.step around with
  | .next _ => m.instr?.bind Instr.turn?
  | .halt .. => none

theorem step_of_turn {m : Machine R} {frame : Frame} {below : List Frame} {rotation : Option R}
    (around : Surroundings R) (hzero : ¬ (Scalar.zero : R) < Scalar.zero)
    (hframes : m.frames = frame :: below)
    (hinstr : m.instr? = some (.action (.setDriveRotation rotation)))
    (hmotion : m.motion = none) (hcancelled : m.cancelled = false)
    (hfinite : Scalar.isFinite (rotation.getD Scalar.zero) = true) :
    m.step around =
      .next { m with
        frames := frame.movedOn :: below
        robot := { m.robot with rotation := rotation.getD Scalar.zero } } := by
  have hmoment : (Moment.mk m around 0).instr? = some _ := hinstr
  obtain ⟨hcheck, hget⟩ := Moment.slot_of_instr? hframes hmoment
  have hrobot : m.robot.place ((MotionTarget.toRotation (rotation.getD Scalar.zero)).resolve
      m.robot.pose) = { m.robot with rotation := rotation.getD Scalar.zero } := rfl
  rw [step_of_instr? around hframes hcheck hget]
  simp only [exec, act, finite, hfinite, if_true, beginMotion, Rig.startMotion?, Rig.isMoving,
    hmotion, hcancelled, hzero, Option.isSome_none, Bool.false_eq_true, if_false, bind,
    Except.bind, hrobot]
  rfl

theorem unchanged_of_error {m m' : Machine R} {around : Surroundings R} {e : ExecutionError R}
    (h : m.step around = .halt m' (.error e)) : m'.toRig = m.toRig ∧ m'.wait = m.wait := by
  have htakes := m.takes_step around
  rw [h] at htakes
  cases htakes with
  | failsAtTest | fails | breaksOut => exact ⟨rfl, rfl⟩

theorem robot_of_instr? {m : Machine R} (around : Surroundings R) (h : m.instr? = none) :
    (m.step around).machine.robot = m.robot := by
  have hslot {frame : Frame} {below : List Frame} {instr : Instr R}
      (hframes : m.frames = frame :: below) (hcheck : frame.checkPending = false)
      (hinstr : m.script.instr? frame.slot = some instr) : False := by
    unfold instr? at h
    rw [slot?_of_instr? hframes hcheck hinstr, Option.bind_some, hinstr] at h
    cases h
  have htakes := m.takes_step around
  generalize m.step around = step at htakes
  cases htakes with
  | executes hframes hcheck hinstr | suspends hframes hcheck hinstr | stops hframes hcheck hinstr
  | fails hframes hcheck hinstr | breaksOut hframes hcheck hinstr =>
    exact (hslot hframes hcheck hinstr).elim
  | done | passesTest | leavesAtTest | failsAtTest | leaves | turns => rfl

theorem Executes.robot_eq {m m' : Machine R} {around : Surroundings R} {instr : Instr R}
    {flow : Flow} (h : m.Executes around instr flow m') (hblock : ∀ block, instr ≠ .action block) :
    m'.robot = m.robot := by
  cases h with
  | acts => exact absurd rfl (hblock _)
  | passes | opens | waits | breaks | stops => rfl

section Turns

variable [Tuning.Valid R] [Tuning.Lasting R] {m m' : Machine R} {around : Surroundings R}
  {instr : Instr R} {flow : Flow}

theorem rotation_of_exec (hcancelled : m.cancelled = false)
    (h : m.exec around instr = .ok (flow, m')) :
    m'.robot.rotation = instr.turn?.getD m.robot.rotation ∧
      (flow ≠ .next → instr.turn? = none) := by
  have hexecutes := executes_of_exec h
  cases instr with
  | action block =>
    unfold exec at h
    dsimp only at h
    rw [act_eq] at h
    cases hperform : m.toRig.perform around block with
    | error e =>
      rw [hperform] at h
      cases h
    | ok outcome =>
      rw [hperform] at h
      have htake : m.take outcome = (flow, m') := Except.ok.inj h
      obtain ⟨rfl, rfl⟩ := Prod.ext_iff.mp htake
      obtain ⟨deed, hdeed, hout⟩ := bind_eq_ok_iff.mp hperform
      refine ⟨Rig.rotation_of_leads hcancelled hdeed (leads_take hout), ?_⟩
      intro hflow
      cases hturn : block.turn? with
      | none => exact hturn
      | some degrees =>
        obtain ⟨rig', line, rfl⟩ := Rig.goesOn_of_turn hturn hperform
        exact absurd rfl hflow
  | _ => exact ⟨congrArg Robot.rotation (hexecutes.robot_eq nofun), fun _ => rfl⟩

theorem rotation_step (around : Surroundings R) (hcancelled : m.cancelled = false) :
    (m.step around).machine.robot.rotation = (m.turn? around).getD m.robot.rotation := by
  cases hinstr : m.instr? with
  | none =>
    have hturn : m.turn? around = none := by
      unfold turn?
      rw [hinstr]
      split
      . rfl
      . rfl
    rw [hturn, robot_of_instr? around hinstr]
    rfl
  | some instr =>
    obtain ⟨slot, hslot, -⟩ := Option.bind_eq_some_iff.mp hinstr
    obtain ⟨frame, below, hframes, -, -⟩ := slot?_eq_some hslot
    have hmoment : (Moment.mk m around 0).instr? = some instr := hinstr
    obtain ⟨hcheck, hget⟩ := Moment.slot_of_instr? hframes hmoment
    have hstep := step_of_instr? around hframes hcheck hget
    have hexec {flow : Flow} {m' : Machine R}
        (h : { m with frames := frame.movedOn :: below }.exec around instr = .ok (flow, m')) :
        m'.robot.rotation = instr.turn?.getD m.robot.rotation ∧
          (flow ≠ .next → instr.turn? = none) :=
      rotation_of_exec (m := { m with frames := frame.movedOn :: below }) hcancelled h
    unfold turn?
    rw [hinstr, Option.bind_some]
    split at hstep
    . next hnext =>
      rw [hstep]
      exact (hexec hnext).1
    . next hsuspend =>
      obtain ⟨hrotation, hflow⟩ := hexec hsuspend
      rw [hflow nofun] at hrotation
      rw [hstep]
      exact hrotation
    . next hstop =>
      obtain ⟨hrotation, hflow⟩ := hexec hstop
      rw [hflow nofun] at hrotation
      rw [hstep]
      exact hrotation
    . rw [hstep]
      rfl
    . rw [hstep]
      rfl

theorem rotation_run (hcancelled : m.cancelled = false) (budget : Nat) :
    (run around budget m).1.robot.rotation =
      ((trace around budget m).filterMap (turn? around)).getLast?.getD m.robot.rotation := by
  induction budget generalizing m with
  | zero => rfl
  | succ budget ih =>
    have hstep := rotation_step around hcancelled
    have hkept := Rig.cancelled_kept.step m around
    unfold run trace
    cases hnext : m.step around with
    | halt m' result =>
      have hturn : m.turn? around = none := by
        unfold turn?
        rw [hnext]
      rw [hnext, hturn] at hstep
      rw [List.filterMap_cons_none hturn]
      exact hstep
    | next m' =>
      have hcancelled' : m'.cancelled = false := by
        rw [hnext] at hkept
        exact hkept.trans hcancelled
      rw [hnext] at hstep
      have hrest := ih hcancelled'
      cases hturn : m.turn? around with
      | none =>
        rw [hturn] at hstep
        rw [List.filterMap_cons_none hturn]
        exact hrest.trans (congrArg _ hstep)
      | some degrees =>
        rw [hturn] at hstep
        rw [List.filterMap_cons_some hturn, List.getLast?_cons]
        exact hrest.trans (congrArg _ hstep)

theorem rotation_advance (m : Machine R) (around : Surroundings R) (dt : R) :
    (m.advance around dt).1.robot.rotation =
      ((m.stepped around dt).filterMap (turn? around)).getLast?.getD m.robot.rotation := by
  unfold advance stepped
  dsimp only
  cases hcancelled : m.cancelled with
  | true => rfl
  | false =>
    cases { m with console := #[] }.isDone with
    | true => rfl
    | false =>
      cases { m with console := #[] }.serve around dt with
      | error e => rfl
      | ok wait? =>
        cases wait? with
        | some wait => rfl
        | none =>
          exact rotation_run (m := { m with console := #[], wait := .nothing }) hcancelled _

end Turns

theorem halts_of_run_error {around : Surroundings R} {budget : Nat} {m : Machine R}
    {e : ExecutionError R} (h : (run around budget m).2 = .error e) :
    ∃ t, (trace around budget m).getLast? = some t ∧
      t.step around = .halt (run around budget m).1 (.error e) := by
  induction budget generalizing m with
  | zero => cases h
  | succ budget ih =>
    unfold run at h ⊢
    unfold trace
    cases hstep : m.step around with
    | halt m' result =>
      rw [hstep] at h
      cases h
      exact ⟨m, rfl, hstep⟩
    | next m' =>
      rw [hstep] at h
      obtain ⟨t, hlast, hhalt⟩ := ih h
      refine ⟨t, ?_, hhalt⟩
      rw [List.getLast?_cons, hlast]
      rfl

theorem unchanged_of_advance_error {m : Machine R} {around : Surroundings R} {dt : R}
    {e : ExecutionError R} (h : (m.advance around dt).2 = .error e) :
    (m.advance around dt).1.toRig = ((m.stepped around dt).getLast?.getD m).toRig ∧
      (m.advance around dt).1.wait = ((m.stepped around dt).getLast?.getD m).wait := by
  unfold advance at h ⊢
  unfold stepped
  dsimp only at h ⊢
  cases hcancelled : m.cancelled with
  | true => exact ⟨rfl, rfl⟩
  | false =>
    rw [hcancelled] at h
    cases hdone : { m with console := #[] }.isDone with
    | true => exact ⟨rfl, rfl⟩
    | false =>
      rw [hdone] at h
      cases hserve : { m with console := #[] }.serve around dt with
      | error e => exact ⟨rfl, rfl⟩
      | ok wait? =>
        rw [hserve] at h
        cases wait? with
        | some wait => cases h
        | none =>
          obtain ⟨t, hlast, hhalt⟩ := halts_of_run_error h
          have hunchanged := unchanged_of_error hhalt
          rw [← Option.getD_some (a := t) (b := m), ← hlast] at hunchanged
          exact hunchanged

end Machine

theorem Rig.step_writes (rig : Rig R) (dt : R) :
    ∃ pose motion, (rig.step dt).2 = { rig with robot := rig.robot.place pose, motion } := by
  unfold step
  split
  . exact ⟨rig.robot.pose, rig.motion, rfl⟩
  . next motion hmotion =>
    split
    . exact ⟨rig.robot.pose, none, rfl⟩
    . dsimp only
      split
      . exact ⟨motion.target, none, rfl⟩
      . exact ⟨_, _, rfl⟩

/--
Each part of the robot has one writer. A timestep of a program leaves the robot where it is, and
turns it as the last block did that turned it on the spot; a motion does nothing but carry the robot
along; and an instruction that fails, or a condition that the program waits for, changes nothing.
-/
theorem Machine.one_writer_per_field (m : Machine Float32) (around : Surroundings Float32)
    (dt : Float32) :
    (m.advance around dt).1.robot.x = m.robot.x ∧ (m.advance around dt).1.robot.y = m.robot.y ∧
      (m.advance around dt).1.robot.rotation =
        ((m.stepped around dt).filterMap (turn? around)).getLast?.getD m.robot.rotation ∧
      (∃ pose motion,
        (m.toRig.step dt).2 = { m.toRig with robot := m.robot.place pose, motion }) ∧
      ∀ e, (m.advance around dt).2 = .error e →
        (m.advance around dt).1.toRig = ((m.stepped around dt).getLast?.getD m).toRig ∧
          (m.advance around dt).1.wait = ((m.stepped around dt).getLast?.getD m).wait := by
  have hposition := m.position_advance around dt
  refine ⟨congrArg Point.x hposition, congrArg Point.y hposition, m.rotation_advance around dt,
    m.toRig.step_writes dt, ?_⟩
  intro e h
  exact unchanged_of_advance_error h

theorem Machine.one_writer_per_field_of_two_turns :
    let p : Program Float32 :=
      [.action (.setDriveRotation (some 90)), .action (.setDriveRotation none),
        .action (.turnToHeading (some (1 / 0)))]
    let robot : Robot Float32 := { Robot.atRest ⟨200, 200⟩ with rotation := 45 }
    let m := launch (Script.ofProgram p) robot
    (m.advance ⟨1, 0⟩ 0).2 = .error (.nonFinite "turnToHeading" "heading" (1 / 0)) ∧
      (m.stepped ⟨1, 0⟩ 0).filterMap (turn? ⟨1, 0⟩) = [90, 0] ∧
      (m.advance ⟨1, 0⟩ 0).1.toRig = { robot := { robot with rotation := 0 } } := by
  intro p robot m
  have herror : (m.advance ⟨1, 0⟩ 0).2 =
      .error (.nonFinite "turnToHeading" "heading" (1 / 0)) := by
    decide +kernel
  obtain ⟨-, -, -, -, hfails⟩ := m.one_writer_per_field ⟨1, 0⟩ 0
  refine ⟨herror, by decide +kernel, ?_⟩
  rw [(hfails _ herror).1]
  decide +kernel

end ReefRover
