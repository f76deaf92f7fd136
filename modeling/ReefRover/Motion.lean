import ReefRover.Robot

/-!
This module contains motions. A motion takes the robot from one pose to another in a given time,
fast at first and slower toward the end. A rig is a robot together with the motion it is making;
it makes one motion at a time.
-/

namespace ReefRover

/--
How much of the way is behind after a part `t` of the time: `1 - (1 - t) ^ 3`, with `t` held to
`[0, 1]`.
-/
def easeOut {R : Type} [Scalar R] (t : R) : R :=
  let left := Scalar.one - Scalar.clamp Scalar.zero Scalar.one t
  Scalar.one - left * left * left

/-- Where a motion leads. What is absent stays as it is. -/
structure MotionTarget (R : Type) where
  x : Option R := none
  y : Option R := none
  rotation : Option R := none
deriving DecidableEq, Repr

namespace MotionTarget

variable {R : Type}

def toPosition (p : Point R) : MotionTarget R :=
  { x := some p.x, y := some p.y }

def toRotation (degrees : R) : MotionTarget R :=
  { rotation := some degrees }

def resolve (target : MotionTarget R) (start : Pose R) : Pose R :=
  { x := target.x.getD start.x
    y := target.y.getD start.y
    rotation := target.rotation.getD start.rotation }

end MotionTarget

structure Motion (R : Type) where
  start : Pose R
  target : Pose R
  duration : R
  elapsed : R
deriving DecidableEq, Repr

namespace Motion

variable {R : Type} [Scalar R]

/-- The pose when a part `eased` of the way is behind. -/
def poseAt (motion : Motion R) (eased : R) : Pose R :=
  let between (a b : R) : R := a + (b - a) * eased
  { x := between motion.start.x motion.target.x
    y := between motion.start.y motion.target.y
    rotation := between motion.start.rotation motion.target.rotation }

end Motion

inductive MotionStatus where
  | idle
  | moving
  | arrived
  | cancelled
deriving DecidableEq, Repr

namespace MotionStatus

def name : MotionStatus → String
  | idle => "Idle"
  | moving => "Moving"
  | arrived => "Arrived"
  | cancelled => "Cancelled"

end MotionStatus

/--
A robot, the motion it is making, and whether the run that uses it was cancelled. Cancelling does
nothing by itself: motions and programs look at it at every timestep.
-/
structure Rig (R : Type) where
  robot : Robot R
  motion : Option (Motion R) := none
  cancelled : Bool := false
deriving DecidableEq, Repr

namespace Rig

variable {R : Type} [Scalar R]

def atRest (origin : Point R) : Rig R :=
  { robot := .atRest origin }

def cancel (rig : Rig R) : Rig R :=
  { rig with cancelled := true }

def isMoving (rig : Rig R) : Bool :=
  rig.motion.isSome

/--
Starts a motion from where the robot is. It is refused while another motion is under way, does
nothing once the run is cancelled, and is over at once if its duration is not positive.
-/
def startMotion? (rig : Rig R) (target : MotionTarget R) (duration : R) : Option (Rig R) :=
  if rig.isMoving then
    none
  else if rig.cancelled then
    some rig
  else
    let start := rig.robot.pose
    let target := target.resolve start
    if Scalar.zero < duration then
      some { rig with motion := some { start, target, duration, elapsed := Scalar.zero } }
    else
      some { rig with robot := rig.robot.place target }

/-- Carries the motion on by `dt` seconds. On arrival the robot is exactly in the target pose. -/
def step (rig : Rig R) (dt : R) : MotionStatus × Rig R :=
  match rig.motion with
  | none => (.idle, rig)
  | some motion =>
    if rig.cancelled then
      (.cancelled, { rig with motion := none })
    else
      let motion := { motion with elapsed := motion.elapsed + dt }
      if motion.duration ≤ motion.elapsed + Tuning.timeTolerance then
        (.arrived, { rig with robot := rig.robot.place motion.target, motion := none })
      else
        let eased := easeOut (motion.elapsed / motion.duration)
        (.moving,
          { rig with robot := rig.robot.place (motion.poseAt eased), motion := some motion })

/-- Drops the motion and leaves the robot where it is. Tells whether there was one. -/
def dropMotion (rig : Rig R) : Bool × Rig R :=
  (rig.isMoving, { rig with motion := none })

end Rig

end ReefRover
