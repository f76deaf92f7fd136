import ReefRover.Proofs.Machine.Range
import ReefRover.Proofs.Run.Upheld
import ReefRover.Run.Codec

/-!
This module contains the proof that the numbers of a robot stay finite. No program sets the heading
and the velocities to anything else, and the velocities stay percentages. The place of the robot
stays finite if no block moves it beyond what single precision absorbs; numbers that are not finite
make their block fail before it has touched anything, the count of a loop among them.
-/

namespace ReefRover

open Floating Single

theorem Action.deed_of_not_finite {action : Action Float32} {field : String} {value : Float32}
    (hnumber : action.number? = some (field, value)) (hnot : Scalar.isFinite value = false)
    (robot : Robot Float32) (around : Surroundings Float32) :
    action.deed robot around = .error (.nonFinite action.name field value) := by
  have hfails : Machine.finite action.name field value = .error _ := finite_of_not_finite hnot
  cases action
  case drive direction given unit =>
    cases given with
    | none => cases hnumber
    | some d =>
      cases hnumber
      unfold deed
      dsimp only
      rw [hfails]
      rfl
  case stopDriving | pen | magnet | print | clearConsole => cases hnumber
  all_goals
    rename_i given
    cases given with
    | none => cases hnumber
    | some v =>
      cases hnumber
      unfold deed
      dsimp only [Option.getD_some]
      rw [hfails]
      rfl

theorem Machine.act_of_not_finite (m : Machine Float32) (around : Surroundings Float32)
    {action : Action Float32} {field : String} {value : Float32}
    (hnumber : action.number? = some (field, value)) (hnot : Scalar.isFinite value = false) :
    m.act around action = .error (.nonFinite action.name field value) := by
  rw [act_eq]
  unfold Rig.perform
  rw [Action.deed_of_not_finite hnumber hnot]
  rfl

theorem Machine.exec_repeatTimes_of_not_finite (m : Machine Float32)
    (around : Surroundings Float32) {times : Float32} (hnot : Scalar.isFinite times = false)
    (body : BodyId) :
    m.exec around (.repeatTimes (some times) body) =
      .error (.nonFinite "repeatTimes" "times" times) := by
  unfold exec
  change finite "repeatTimes" "times" times >>= _ = _
  rw [finite_of_not_finite hnot]
  rfl

namespace Rig

/-! ### Starts -/

theorem inRange_atRest (ocean : Ocean Float32) : (atRest ocean.center).InRange := by
  have hpart : Reached (ocean.layout.canvasSize / Scalar.ofNat 2) := by
    have hfactor := ocean.layout.exactFactor_le
    apply ocean.layout.within_center.mono
    . have hpos := ocean.layout.exactFactor_pos
      norm_num
      linarith
    . norm_num at hfactor ⊢
      linarith
  have hrotation : Reached Scalar.zero := within_zero.mono (by norm_num) (by norm_num)
  have hpose : (atRest ocean.center).robot.pose.Reached := ⟨hpart, hpart, hrotation⟩
  exact ⟨hpose.finite, fun _ _ => hpose, nofun⟩

theorem fit_atRest (origin : Point Float32) : (atRest origin).robot.Fit := by
  have hhalf : Within (Tuning.defaultVelocity : Float32) 0 (100 : Nat) :=
    (within_scalar (n := 50) (by decide)).mono (by norm_num) (by norm_num)
  have hheading : Scalar.isFinite (Scalar.zero : Float32) = true := within_zero.isFinite
  exact ⟨hheading, hhalf, hhalf⟩

/-! ### Runs -/

variable {p : Program Float32} {layout : Layout} {dt : Float32}

theorem survives_inRange (hdt : Within dt 0 1)
    (hp : ∀ action, .action action ∈ Program.blocks p → action.Moderate) :
    Survives (fun rig => rig.InRange) p layout dt := by
  apply Upheld.survives hp
  . intro rig h
    exact .cancelled h.finite
  . intro rig h
    exact h.step hdt
  . exact upheld_inRange layout

theorem survives_fit : Survives (fun rig : Rig Float32 => rig.robot.Fit) p layout dt := by
  apply Upheld.survives (A := fun _ => True) fun _ _ => trivial
  . intro rig h
    exact h
  . intro rig h
    exact fit_step h dt
  . intro clock rig rig' action deed haction hmotion h hdeed hleads
    exact ⟨upheld_fit _ haction hmotion h.1 hdeed hleads,
      (cancelled_kept hdeed hleads).trans h.2⟩

end Rig

namespace Controller

def IsPercentage (velocity : Float32) : Prop :=
  Scalar.isFinite velocity = true ∧ Scalar.zero ≤ velocity ∧ velocity ≤ Tuning.maxVelocity

theorem isPercentage_of_within {velocity : Float32} (h : Within velocity 0 (100 : Nat)) :
    IsPercentage velocity := by
  have hmax : Within (Tuning.maxVelocity : Float32) (100 : Nat) (100 : Nat) :=
    within_scalar (by decide)
  refine ⟨h.isFinite, ?_, ?_⟩
  . rw [le_iff_toReal within_zero h, within_zero.toReal_eq]
    exact h.ge
  . rw [le_iff_toReal h hmax, hmax.toReal_eq]
    exact h.le

/--
Whatever program is started and however many timesteps follow, the heading and the velocities of the
robot are finite, and the velocities are percentages. Where the robot is, and which way it faces, is
finite as well if the finite numbers that the blocks of the program are given are moderate. An
action fails if its number is not finite, and so does a loop that is to be repeated that often.
-/
theorem finite_after_timesteps (c : Controller Float32) (hrunning : c.isRunning = false)
    (p : Program Float32) (n : Nat) :
    let robot := ((c.start p).2.ticked n).robot
    (Scalar.isFinite robot.heading = true ∧ IsPercentage robot.driveVelocity ∧
      IsPercentage robot.turnVelocity) ∧
    ((∀ action, .action action ∈ Program.blocks p → action.Moderate) →
      Scalar.isFinite robot.x = true ∧ Scalar.isFinite robot.y = true ∧
        Scalar.isFinite robot.rotation = true) ∧
    (∀ (action : Action Float32) field value, action.number? = some (field, value) →
      Scalar.isFinite value = false → ∀ (m : Machine Float32) around,
        m.act around action = .error (.nonFinite action.name field value)) ∧
    ∀ (times : Float32) body, Scalar.isFinite times = false → ∀ (m : Machine Float32) around,
      m.exec around (.repeatTimes (some times) body) =
        .error (.nonFinite "repeatTimes" "times" times) := by
  intro robot
  refine ⟨?_, ?_, ?_, ?_⟩
  . have hstart := carries_start hrunning p (P := fun rig => rig.robot.Fit) (Rig.fit_atRest _)
    have hfit := (hstart.ticked Rig.survives_fit n).rig
    exact ⟨hfit.heading, isPercentage_of_within hfit.driveVelocity,
      isPercentage_of_within hfit.turnVelocity⟩
  . intro hp
    have hdt : Within (Tuning.timestep : Float32) 0 1 :=
      Tuning.within_timestep.mono (by norm_num) (by norm_num)
    have hstart := carries_start hrunning p (P := fun rig => rig.InRange) (Rig.inRange_atRest _)
    have hfinite := (hstart.ticked (Rig.survives_inRange hdt hp) n).rig.finite
    exact ⟨hfinite.x, hfinite.y, hfinite.rotation⟩
  . intro action field value hnumber hnot m around
    exact m.act_of_not_finite around hnumber hnot
  . intro times body hnot m around
    exact m.exec_repeatTimes_of_not_finite around hnot body

theorem finite_after_a_long_way :
    let c := new (Settings.defaults : Settings Float32) 7
    let program : Program Float32 :=
      [Op.setDriveVelocity 1000, Op.turn .left 1e30,
        .forever [Op.drive .forward 1e29 .inches, Op.turnToHeading (1 / 0)]]
    let last : Action Float32 := .turnToHeading (some (1 / 0))
    c.isRunning = false ∧ (∀ action, .action action ∈ Program.blocks program → action.Moderate) ∧
      IsPercentage ((c.start program).2.ticked 62).robot.driveVelocity ∧
      Scalar.isFinite ((c.start program).2.ticked 62).robot.y = true ∧
      last.number? = some ("heading", 1 / 0) ∧ Scalar.isFinite (1 / 0 : Float32) = false ∧
      ∀ (m : Machine Float32) around body,
        m.act around last = .error (.nonFinite "turnToHeading" "heading" (1 / 0)) ∧
          m.exec around (.repeatTimes (some (1 / 0)) body) =
            .error (.nonFinite "repeatTimes" "times" (1 / 0)) := by
  intro c program last
  have hmoderate : ∀ action, .action action ∈ Program.blocks program → action.Moderate := by
    have hblocks : (∀ action, .action action ∈ Program.blocks program → action.Moderate) ↔
        Action.Moderate (.setDriveVelocity (some (1000 : Float32))) ∧
          Action.Moderate (.turn .left (some (1e30 : Float32))) ∧
          Action.Moderate (.drive .forward (some (1e29 : Float32)) (some .inches)) ∧
          Action.Moderate (.turnToHeading (some (1 / 0 : Float32))) := by
      simp [program, Program.blocks_eq, Op.bodies, Op.setDriveVelocity, Op.turn, Op.drive,
        Op.turnToHeading]
    rw [hblocks]
    simp only [Action.Moderate, Moderate]
    decide +kernel
  have hlast : Scalar.isFinite (1 / 0 : Float32) = false := by decide +kernel
  obtain ⟨hbounded, hfinite, hactions, hloops⟩ := finite_after_timesteps c rfl program 62
  refine ⟨rfl, hmoderate, hbounded.2.1, (hfinite hmoderate).2.1, rfl, hlast, ?_⟩
  intro m around body
  exact ⟨hactions last "heading" (1 / 0) rfl hlast m around, hloops (1 / 0) body hlast m around⟩

/-- The sum of two numbers that are finite need not be, and no check stops the run then. -/
theorem rotation_overflows :
    let c := new (Settings.defaults : Settings Float32) 7
    let text := "[\x7b\"op\":\"setDriveRotation\",\"rotation\":3e38\x7d,"
      ++ "\x7b\"op\":\"turn\",\"direction\":\"right\",\"degrees\":3e38\x7d]"
    let d := (c.startText text).2.ticked 2
    d.isRunning = true ∧ Scalar.isFinite d.robot.rotation = false := by
  decide +kernel

end Controller

end ReefRover
