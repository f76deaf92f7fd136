import ReefRover.Proofs.Script.Mirror
import ReefRover.Robot

/-!
This module contains the expressions that do not read where the robot is, and the programs that do
not. What such an expression comes to is the same at all places.
-/

namespace ReefRover

variable {R : Type}

namespace Sensor

def isPosition : Sensor → Bool
  | positionX | positionY => true
  | leftBumperPressed | rightBumperPressed | distanceFound | distanceMm | eyeNearObject
  | eyeDetectsColor | driveRotation | driveHeading | timerSeconds => false

end Sensor

namespace Expr

def readsPosition : Expr R → Bool
  | boolean _ | number _ => false
  | not operand => operand.readsPosition
  | compare _ lhs rhs | logic _ lhs rhs => lhs.readsPosition || rhs.readsPosition
  | sensor s => s.isPosition

end Expr

/-- No condition of the program reads where the robot is. -/
def Program.Placeless (p : Program R) : Prop :=
  ∀ op ∈ blocks p, ∀ condition ∈ op.conditions, condition.readsPosition = false

def Script.Placeless (s : Script R) : Prop :=
  ∀ id, (s.condition id).readsPosition = false

theorem Program.Placeless.script {p : Program R} (h : p.Placeless) :
    (Script.ofProgram p).Placeless :=
  Script.condition_ofProgram (P := fun condition => condition.readsPosition = false) rfl h

structure Readings.SameButPlace (readings readings' : Readings R) : Prop where
  rotation_eq : readings'.rotation = readings.rotation
  heading_eq : readings'.heading = readings.heading
  timer_eq : readings'.timer = readings.timer

variable [Scalar R] {readings readings' : Readings R}

theorem Sensor.read_eq_of_placeless {s : Sensor} (h : s.isPosition = false)
    (hsame : readings.SameButPlace readings') : s.read readings' = s.read readings := by
  cases s with
  | positionX | positionY => cases h
  | driveRotation => exact congrArg Value.number hsame.rotation_eq
  | driveHeading => exact congrArg Value.number hsame.heading_eq
  | timerSeconds => exact congrArg Value.number hsame.timer_eq
  | _ => rfl

namespace Expr

theorem eval_eq_of_placeless {e : Expr R} (h : e.readsPosition = false)
    (hsame : readings.SameButPlace readings') : e.eval readings' = e.eval readings := by
  induction e with
  | boolean value => rfl
  | number value => rfl
  | not operand ih => rw [eval, eval, ih h]
  | compare op lhs rhs ihl ihr | logic op lhs rhs ihl ihr =>
    rw [readsPosition, Bool.or_eq_false_iff] at h
    rw [eval, eval, ihl h.1, ihr h.2]
  | sensor s => rw [eval, eval, Sensor.read_eq_of_placeless h hsame]

theorem test_eq_of_placeless {e : Expr R} (h : e.readsPosition = false)
    (hsame : readings.SameButPlace readings') : e.test readings' = e.test readings := by
  rw [test, test, eval_eq_of_placeless h hsame]

end Expr

end ReefRover
