import ReefRover.Machine.Tick
import ReefRover.Proofs.Result

/-!
This module contains what the blocks without blocks inside do to a rig. What such a block asks for
depends on the robot and on what is around it alone; carrying it out touches nothing of the program
but what it waits for.
-/

namespace ReefRover

variable {R : Type} [Scalar R]

inductive Deed (R : Type) where
  /-- To make a motion, at whose end the program goes on. -/
  | move (target : MotionTarget R) (duration : R)
  /-- To be somewhere at once. -/
  | place (target : MotionTarget R)
  | dropMotion
  | setRobot (robot : Robot R)
  | pause (seconds : R)
  | write (line : String)

/-- How a rig is left by a deed, and what the program waits for after it. -/
inductive Outcome (R : Type) where
  | goesOn (rig : Rig R) (line : Option String)
  | moves (rig : Rig R)
  | sleeps (seconds : R)

namespace Action

def deed (action : Action R) (robot : Robot R) (around : Surroundings R) :
    Except (ExecutionError R) (Deed R) :=
  let number (field : String) (given : Option R) (default : R) :=
    Machine.finite action.name field (given.getD default)
  match action with
  | .drive direction distance unit =>
    let target (pixels : R) := MotionTarget.toPosition
      (robot.position.toward (Scalar.facing robot.rotation)
        (pixels * around.scale * Machine.driveSign direction))
    match distance with
    | some d =>
      (Machine.finite action.name "distance" d).map fun d =>
        .move (target (Machine.drivePixels d unit)) Tuning.motionDuration
    | none => .ok (.move (target Tuning.defaultDriveDistance) Tuning.defaultDriveDuration)
  | .turn direction degrees =>
    (number "degrees" degrees Tuning.defaultTurnDegrees).map fun degrees =>
      match direction with
      | .right => .move (.toRotation (robot.rotation + degrees)) Tuning.motionDuration
      | .left => .move (.toRotation (robot.rotation + -degrees)) Tuning.motionDuration
  | .turnToHeading heading =>
    (number "heading" heading Scalar.zero).map fun target =>
      .move (.toRotation target) Tuning.motionDuration
  | .turnToRotation rotation =>
    (number "rotation" rotation Scalar.zero).map fun target =>
      .move (.toRotation target) Tuning.motionDuration
  | .stopDriving => .ok .dropMotion
  | .setDriveVelocity velocity =>
    (number "velocity" velocity Tuning.defaultVelocity).map fun v =>
      .setRobot { robot with driveVelocity := Scalar.clamp Scalar.zero Tuning.maxVelocity v }
  | .setTurnVelocity velocity =>
    (number "velocity" velocity Tuning.defaultVelocity).map fun v =>
      .setRobot { robot with turnVelocity := Scalar.clamp Scalar.zero Tuning.maxVelocity v }
  | .setDriveHeading heading =>
    (number "heading" heading Scalar.zero).map fun heading => .setRobot { robot with heading }
  | .setDriveRotation rotation =>
    (number "rotation" rotation Scalar.zero).map fun rotation => .place (.toRotation rotation)
  | .setDriveTimeout seconds | .wait seconds =>
    (number "seconds" seconds Tuning.defaultWait).map .pause
  | .pen .down _ => .ok (.write "pen down")
  | .pen .up _ => .ok (.write "pen up")
  | .pen .setColor color => .ok (.write ("pen color: " ++ color.getD "black"))
  | .magnet .boost => .ok (.write "magnet boost")
  | .magnet .drop => .ok (.write "magnet drop")
  | .print text => .ok (.write s!"print: {text}")
  | .clearConsole => .ok (.write "console cleared")

/-- The number of a block and the field that holds it, if the program gives it. -/
def number? : Action R → Option (String × R)
  | .drive _ distance _ => distance.map ("distance", ·)
  | .turn _ degrees => degrees.map ("degrees", ·)
  | .turnToHeading heading | .setDriveHeading heading => heading.map ("heading", ·)
  | .turnToRotation rotation | .setDriveRotation rotation => rotation.map ("rotation", ·)
  | .setDriveVelocity velocity | .setTurnVelocity velocity => velocity.map ("velocity", ·)
  | .setDriveTimeout seconds | .wait seconds => seconds.map ("seconds", ·)
  | .stopDriving | .pen .. | .magnet _ | .print _ | .clearConsole => none

end Action

namespace Rig

def carryOut (rig : Rig R) (op : String) : Deed R → Except (ExecutionError R) (Outcome R)
  | .move target duration =>
    match rig.startMotion? target duration with
    | some rig => .ok (.moves rig)
    | none => .error (.motionInFlight op)
  | .place target =>
    match rig.startMotion? target Scalar.zero with
    | some rig => .ok (.goesOn rig none)
    | none => .error (.motionInFlight op)
  | .dropMotion =>
    .ok (.goesOn rig.dropMotion.2
      (if rig.isMoving then some "stop driving: motion cancelled" else none))
  | .setRobot robot => .ok (.goesOn { rig with robot } none)
  | .pause seconds => .ok (.sleeps seconds)
  | .write line => .ok (.goesOn rig (some line))

def perform (rig : Rig R) (around : Surroundings R) (action : Action R) :
    Except (ExecutionError R) (Outcome R) := do
  rig.carryOut action.name (← action.deed rig.robot around)

end Rig

def extended (console : Array String) (line : Option String) : Array String :=
  console ++ line.toArray

namespace Machine

def take (m : Machine R) : Outcome R → Flow × Machine R
  | .goesOn rig line => (.next, { m with toRig := rig, console := extended m.console line })
  | .moves rig => (.suspend, { m with toRig := rig, wait := .motion })
  | .sleeps seconds => (.suspend, { m with wait := .sleep seconds })

end Machine

theorem finite_eq_ok_iff {op field : String} {value value' : R} :
    Machine.finite op field value = .ok value' ↔ Scalar.isFinite value ∧ value = value' := by
  unfold Machine.finite
  split
  . next h => simp [h]
  . next h => simp [h]

theorem finite_eq_error_iff {op field : String} {value : R} {e : ExecutionError R} :
    Machine.finite op field value = .error e ↔
      Scalar.isFinite value = false ∧ e = .nonFinite op field value := by
  unfold Machine.finite
  split
  . next h => simp [h]
  . next h => simp [h, eq_comm]

theorem finite_of_not_finite {op field : String} {value : R} (h : Scalar.isFinite value = false) :
    Machine.finite op field value = .error (.nonFinite op field value) :=
  finite_eq_error_iff.mpr ⟨h, rfl⟩

namespace Machine

theorem moveAndWait_eq (m : Machine R) (op : String) (target : MotionTarget R) (duration : R) :
    m.moveAndWait op target duration =
      (m.toRig.carryOut op (.move target duration)).map m.take := by
  simp only [moveAndWait, beginMotion, Rig.carryOut]
  cases m.toRig.startMotion? target duration with
  | none => rfl
  | some rig => rfl

theorem bind_checked_eq {m : Machine R} {op : String} {checked : Except (ExecutionError R) R}
    {deed : R → Deed R} {act : R → Except (ExecutionError R) (Flow × Machine R)}
    (h : ∀ v, act v = (m.toRig.carryOut op (deed v)).map m.take) :
    (checked >>= act) = ((checked.map deed) >>= m.toRig.carryOut op).map m.take := by
  cases checked with
  | error e => rfl
  | ok v => exact h v

theorem act_eq (m : Machine R) (around : Surroundings R) (action : Action R) :
    m.act around action = (m.toRig.perform around action).map m.take := by
  -- a block with a number checks it before it asks for anything, which is `bind_checked_eq`
  cases action
  case drive direction distance unit =>
    cases distance with
    | none => exact moveAndWait_eq ..
    | some d =>
      simp only [act, Rig.perform, Action.deed]
      apply bind_checked_eq
      intro v
      exact moveAndWait_eq ..
  case turn direction degrees =>
    apply bind_checked_eq
    intro v
    cases direction with
    | left => exact moveAndWait_eq ..
    | right => exact moveAndWait_eq ..
  case turnToHeading heading =>
    apply bind_checked_eq
    intro v
    exact moveAndWait_eq ..
  case turnToRotation rotation =>
    apply bind_checked_eq
    intro v
    exact moveAndWait_eq ..
  case stopDriving =>
    simp only [act, Rig.perform, Action.deed]
    cases h : m.toRig.isMoving with
    | false =>
      simp [Rig.dropMotion, Rig.carryOut, h, bind, Except.bind, Except.map, take, extended,
        withRig]
    | true =>
      simp [Rig.dropMotion, Rig.carryOut, h, bind, Except.bind, Except.map, take, extended,
        withRig, write]
  case setDriveRotation rotation =>
    apply bind_checked_eq
    intro v
    simp only [beginMotion, Rig.carryOut]
    cases m.toRig.startMotion? (.toRotation v) Scalar.zero with
    | none => rfl
    | some rig => rfl
  case pen action color =>
    cases action with
    | down => rfl
    | up => rfl
    | setColor => rfl
  case magnet action =>
    cases action with
    | boost => rfl
    | drop => rfl
  case print text => rfl
  case clearConsole => rfl
  -- the blocks that only check a number and set something
  all_goals
    apply bind_checked_eq
    intro v
    rfl

end Machine

end ReefRover
