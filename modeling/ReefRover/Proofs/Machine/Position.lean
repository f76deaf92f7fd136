import ReefRover.Proofs.Machine.Kept
import ReefRover.Scalar.Single

/-!
This module contains the proof that programs do not move the robot by themselves. A block can turn
it on the spot, and all else is left to motions, which take their time.
-/

namespace ReefRover

variable {R : Type} [Scalar R]

class Tuning.Lasting (R : Type) [Scalar R] : Prop where
  drive_lasts : (Scalar.zero : R) < Tuning.defaultDriveDuration
  motion_lasts : (Scalar.zero : R) < Tuning.motionDuration

instance : Tuning.Lasting Float32 where
  drive_lasts := by decide
  motion_lasts := by decide

def Deed.Stays (robot : Robot R) : Deed R → Prop
  | .move _ duration => Scalar.zero < duration
  | .place target => target.x = none ∧ target.y = none
  | .setRobot robot' => robot'.position = robot.position
  | .dropMotion | .pause _ | .write _ => True

theorem map_finite_eq_ok {α : Type} {op field : String} {value : R} {f : R → α} {a : α}
    (h : (Machine.finite op field value).map f = .ok a) : a = f value := by
  unfold Machine.finite at h
  split at h
  . cases h
    rfl
  . cases h

/-- The rotation that a block turns the robot to at once, of which there is one kind. -/
def Action.turn? : Action R → Option R
  | .setDriveRotation rotation => some (rotation.getD Scalar.zero)
  | _ => none

def Deed.Turns (robot : Robot R) (turn : Option R) : Deed R → Prop
  | .move _ duration => turn = none ∧ Scalar.zero < duration
  | .place target => ∃ degrees, turn = some degrees ∧ target = .toRotation degrees
  | .setRobot robot' => turn = none ∧ robot'.pose = robot.pose
  | .dropMotion | .pause _ | .write _ => turn = none

theorem Action.turns_of_deed [Tuning.Lasting R] {action : Action R} {robot : Robot R}
    {around : Surroundings R} {deed : Deed R} (h : action.deed robot around = .ok deed) :
    deed.Turns robot action.turn? := by
  cases action
  case drive direction distance unit =>
    cases distance with
    | none =>
      cases h
      exact ⟨rfl, Tuning.Lasting.drive_lasts⟩
    | some d =>
      cases map_finite_eq_ok h
      exact ⟨rfl, Tuning.Lasting.motion_lasts⟩
  case turn direction degrees =>
    cases map_finite_eq_ok h
    cases direction with
    | left => exact ⟨rfl, Tuning.Lasting.motion_lasts⟩
    | right => exact ⟨rfl, Tuning.Lasting.motion_lasts⟩
  case turnToHeading =>
    cases map_finite_eq_ok h
    exact ⟨rfl, Tuning.Lasting.motion_lasts⟩
  case turnToRotation =>
    cases map_finite_eq_ok h
    exact ⟨rfl, Tuning.Lasting.motion_lasts⟩
  case setDriveVelocity =>
    cases map_finite_eq_ok h
    exact ⟨rfl, rfl⟩
  case setTurnVelocity =>
    cases map_finite_eq_ok h
    exact ⟨rfl, rfl⟩
  case setDriveHeading =>
    cases map_finite_eq_ok h
    exact ⟨rfl, rfl⟩
  case setDriveRotation =>
    cases map_finite_eq_ok h
    exact ⟨_, rfl, rfl⟩
  case setDriveTimeout =>
    cases map_finite_eq_ok h
    rfl
  case wait =>
    cases map_finite_eq_ok h
    rfl
  case pen action color =>
    cases action <;>
      cases h <;> rfl
  case magnet action =>
    cases action <;>
      cases h <;> rfl
  case stopDriving =>
    cases h
    rfl
  case print =>
    cases h
    rfl
  case clearConsole =>
    cases h
    rfl

theorem Action.stays_of_deed [Tuning.Lasting R] {action : Action R} {robot : Robot R}
    {around : Surroundings R} {deed : Deed R} (h : action.deed robot around = .ok deed) :
    deed.Stays robot := by
  have hturns := turns_of_deed h
  cases deed with
  | move target duration => exact hturns.2
  | place target =>
    obtain ⟨degrees, -, rfl⟩ := hturns
    exact ⟨rfl, rfl⟩
  | setRobot robot' =>
    have hx : robot'.x = robot.x := congrArg Pose.x hturns.2
    have hy : robot'.y = robot.y := congrArg Pose.y hturns.2
    exact congrArg₂ Point.mk hx hy
  | dropMotion | pause | write => trivial

namespace Rig

def position (rig : Rig R) : Point R :=
  rig.robot.position

theorem robot_of_lasting {rig rig' : Rig R} {target : MotionTarget R} {duration : R}
    (hlasts : Scalar.zero < duration) (h : rig.startMotion? target duration = some rig') :
    rig'.robot = rig.robot := by
  rcases startMotion?_eq_some h with rfl | ⟨motion, rfl⟩ | ⟨hnot, -⟩
  . rfl
  . rfl
  . exact absurd hlasts hnot

theorem position_of_turning {rig rig' : Rig R} {target : MotionTarget R} {duration : R}
    (hx : target.x = none) (hy : target.y = none)
    (h : rig.startMotion? target duration = some rig') : rig'.position = rig.position := by
  rcases startMotion?_eq_some h with rfl | ⟨motion, rfl⟩ | ⟨-, rfl⟩
  . rfl
  . rfl
  . unfold position Robot.position Robot.place MotionTarget.resolve
    dsimp only
    rw [hx, hy]
    rfl

theorem position_kept [Tuning.Lasting R] : Kept (position : Rig R → Point R) := by
  intro rig rig' around action deed hdeed hleads
  have hstays := Action.stays_of_deed hdeed
  cases deed with
  | move target duration => exact congrArg Robot.position (robot_of_lasting hstays hleads)
  | place target => exact position_of_turning hstays.1 hstays.2 hleads
  | setRobot robot =>
    cases hleads
    exact hstays
  | dropMotion | pause | write =>
    cases hleads
    rfl

end Rig

theorem Machine.position_advance [Tuning.Lasting R] (m : Machine R) (around : Surroundings R)
    (dt : R) : (m.advance around dt).1.robot.position = m.robot.position :=
  Rig.position_kept.advance m around dt

end ReefRover
