import ReefRover.Point
import ReefRover.Program.Expr
import ReefRover.Tuning

/-!
This module contains the robot: where it is, which way it faces and how it was set up.
-/

namespace ReefRover

structure Pose (R : Type) where
  x : R
  y : R
  /-- Degrees clockwise from "up". They add up past a full turn. -/
  rotation : R
deriving DecidableEq, BEq, Repr

structure Robot (R : Type) where
  x : R
  y : R
  rotation : R
  heading : R
  driveVelocity : R
  turnVelocity : R
deriving DecidableEq, BEq, Repr

namespace Robot

variable {R : Type} [Scalar R]

def atRest (origin : Point R) : Robot R :=
  { x := origin.x
    y := origin.y
    rotation := Scalar.zero
    heading := Scalar.zero
    driveVelocity := Tuning.defaultVelocity
    turnVelocity := Tuning.defaultVelocity }

def position (robot : Robot R) : Point R :=
  { x := robot.x, y := robot.y }

def pose (robot : Robot R) : Pose R :=
  { x := robot.x, y := robot.y, rotation := robot.rotation }

def place (robot : Robot R) (pose : Pose R) : Robot R :=
  { robot with x := pose.x, y := pose.y, rotation := pose.rotation }

def readings (robot : Robot R) (timer : R) : Readings R :=
  { x := robot.x, y := robot.y, rotation := robot.rotation, heading := robot.heading, timer }

end Robot

end ReefRover
