import ReefRover.Proofs.Program.Bodies
import ReefRover.Robot

/-!
This module contains the expressions that do not read the clock, and the programs that do not. What
such an expression comes to is the same at all times.
-/

namespace ReefRover

variable {R : Type}

namespace Expr

def readsClock : Expr R → Bool
  | boolean _ | number _ => false
  | not operand => operand.readsClock
  | compare _ lhs rhs | logic _ lhs rhs => lhs.readsClock || rhs.readsClock
  | sensor s => decide (s = .timerSeconds)

end Expr

/-- No condition of the program reads the clock. -/
def Program.Timeless (p : Program R) : Prop :=
  ∀ op ∈ blocks p, ∀ condition ∈ op.conditions, condition.readsClock = false

variable [Scalar R]

theorem Sensor.read_eq_of_ne {s : Sensor} (h : s ≠ .timerSeconds) (robot : Robot R) (t t' : R) :
    s.read (robot.readings t) = s.read (robot.readings t') := by
  cases s with
  | timerSeconds => exact absurd rfl h
  | _ => rfl

namespace Expr

theorem eval_eq_of_timeless {e : Expr R} (h : e.readsClock = false) (robot : Robot R) (t t' : R) :
    e.eval (robot.readings t) = e.eval (robot.readings t') := by
  induction e with
  | boolean value => rfl
  | number value => rfl
  | not operand ih =>
    rw [eval, eval, ih h]
  | compare op lhs rhs ihl ihr | logic op lhs rhs ihl ihr =>
    rw [readsClock, Bool.or_eq_false_iff] at h
    rw [eval, eval, ihl h.1, ihr h.2]
  | sensor s =>
    have hsensor : s ≠ .timerSeconds := of_decide_eq_false h
    rw [eval, eval, Sensor.read_eq_of_ne hsensor robot t t']

theorem test_eq_of_timeless {e : Expr R} (h : e.readsClock = false) (robot : Robot R) (t t' : R) :
    e.test (robot.readings t) = e.test (robot.readings t') := by
  rw [test, test, eval_eq_of_timeless h robot t t']

end Expr

end ReefRover
