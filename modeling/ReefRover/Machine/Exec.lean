import ReefRover.Machine.Basic

/-!
This module contains the execution of single instructions. An instruction that fails leaves the
machine as it was, so `exec` gives a new machine only where it succeeds.
-/

namespace ReefRover

inductive Flow where
  | next
  | suspend
  | stop
deriving DecidableEq, Repr

namespace Machine

variable {R : Type} [Scalar R]

/-- A number of a block, or its default, if that is finite. -/
def finite (op field : String) (value : R) : Except (ExecutionError R) R :=
  if Scalar.isFinite value then .ok value else .error (.nonFinite op field value)

def beginMotion (m : Machine R) (op : String) (target : MotionTarget R) (duration : R) :
    Except (ExecutionError R) (Machine R) :=
  match m.toRig.startMotion? target duration with
  | some rig => .ok (m.withRig rig)
  | none => .error (.motionInFlight op)

def moveAndWait (m : Machine R) (op : String) (target : MotionTarget R) (duration : R) :
    Except (ExecutionError R) (Flow × Machine R) := do
  let m ← m.beginMotion op target duration
  return (.suspend, { m with wait := .motion })

/-- The pixels that a drive covers at layout factor 1. -/
def drivePixels (distance : R) (unit : Option DistanceUnit) : R :=
  match unit with
  | some .mm => distance / Tuning.millimetresPerPixel
  | some .inches | none => distance

def driveSign : DriveDirection → R
  | .forward => Scalar.one
  | .reverse => -Scalar.one

def act (m : Machine R) (around : Surroundings R) (action : Action R) :
    Except (ExecutionError R) (Flow × Machine R) :=
  let op := action.name
  match action with
  | .drive direction distance unit => do
    let (pixels, duration) ←
      match distance with
      | some d => do
        let d ← finite op "distance" d
        pure (drivePixels d unit, Tuning.motionDuration)
      | none => pure (Tuning.defaultDriveDistance, Tuning.defaultDriveDuration)
    let target := m.robot.position.toward (Scalar.facing m.robot.rotation)
      (pixels * around.scale * driveSign direction)
    m.moveAndWait op (.toPosition target) duration
  | .turn direction degrees => do
    let degrees ← finite op "degrees" (degrees.getD Tuning.defaultTurnDegrees)
    let delta :=
      match direction with
      | .right => degrees
      | .left => -degrees
    m.moveAndWait op (.toRotation (m.robot.rotation + delta)) Tuning.motionDuration
  | .turnToHeading heading => do
    let target ← finite op "heading" (heading.getD Scalar.zero)
    m.moveAndWait op (.toRotation target) Tuning.motionDuration
  | .turnToRotation rotation => do
    let target ← finite op "rotation" (rotation.getD Scalar.zero)
    m.moveAndWait op (.toRotation target) Tuning.motionDuration
  | .stopDriving =>
    let (dropped, rig) := m.toRig.dropMotion
    let m := m.withRig rig
    .ok (.next, if dropped then m.write "stop driving: motion cancelled" else m)
  | .setDriveVelocity velocity => do
    let v ← finite op "velocity" (velocity.getD Tuning.defaultVelocity)
    let v := Scalar.clamp Scalar.zero Tuning.maxVelocity v
    return (.next, { m with robot := { m.robot with driveVelocity := v } })
  | .setTurnVelocity velocity => do
    let v ← finite op "velocity" (velocity.getD Tuning.defaultVelocity)
    let v := Scalar.clamp Scalar.zero Tuning.maxVelocity v
    return (.next, { m with robot := { m.robot with turnVelocity := v } })
  | .setDriveHeading heading => do
    let heading ← finite op "heading" (heading.getD Scalar.zero)
    return (.next, { m with robot := { m.robot with heading } })
  | .setDriveRotation rotation => do
    let rotation ← finite op "rotation" (rotation.getD Scalar.zero)
    -- a motion without duration is over at once
    let m ← m.beginMotion op (.toRotation rotation) Scalar.zero
    return (.next, m)
  | .setDriveTimeout seconds | .wait seconds => do
    let seconds ← finite op "seconds" (seconds.getD Tuning.defaultWait)
    return (.suspend, { m with wait := .sleep seconds })
  | .pen .down _ => .ok (.next, m.write "pen down")
  | .pen .up _ => .ok (.next, m.write "pen up")
  | .pen .setColor color => .ok (.next, m.write ("pen color: " ++ color.getD "black"))
  | .magnet .boost => .ok (.next, m.write "magnet boost")
  | .magnet .drop => .ok (.next, m.write "magnet drop")
  | .print text => .ok (.next, m.write s!"print: {text}")
  | .clearConsole => .ok (.next, m.write "console cleared")

def enter (m : Machine R) (frame : Frame) : Flow × Machine R :=
  (.next, { m with frames := frame :: m.frames })

def belowLoop? : List Frame → Option (List Frame)
  | [] => none
  | frame :: below => if frame.kind.isLoop then some below else belowLoop? below

/-- Executes an instruction whose frame has already been moved on. -/
def exec (m : Machine R) (around : Surroundings R) (instr : Instr R) :
    Except (ExecutionError R) (Flow × Machine R) :=
  let op := instr.name
  match instr with
  | .action action => m.act around action
  | .waitUntil condition => do
    let holds ← m.test around condition op
    return if holds then (.next, m)
      else (.suspend, { m with wait := .poll condition Tuning.pollInterval })
  | .repeatTimes times body => do
    let times ← finite op "times" (times.getD Tuning.defaultRepeat)
    let count := Scalar.count times
    return if count = 0 then (.next, m) else m.enter (.looping body (.times count))
  | .forever body => .ok (m.enter (.looping body .forever))
  | .repeatUntil condition body => .ok (m.enter (.looping body (.untilTrue condition)))
  | .whileDo condition body => .ok (m.enter (.looping body (.whileTrue condition)))
  | .ifThen condition yes => do
    let holds ← m.test around condition op
    return if holds then m.enter (.block yes) else (.next, m)
  | .ifThenElse condition yes otherwise => do
    let holds ← m.test around condition op
    return m.enter (.block (if holds then yes else otherwise))
  | .ifElseIfElse condition yes elseIfCondition elseIf otherwise => do
    let first ← m.test around condition op
    if first then
      return m.enter (.block yes)
    else
      -- the second condition is tested only where the first one fails
      let second ← m.test around elseIfCondition op
      return m.enter (.block (if second then elseIf else otherwise))
  | .breakLoop =>
    match belowLoop? m.frames with
    | some below => .ok (.next, { m with frames := below })
    | none => .error .breakOutsideLoop
  | .stopProject =>
    let m := m.withRig m.toRig.dropMotion.2
    .ok (.stop, { m with frames := [] }.write "stop project")

end Machine

end ReefRover
