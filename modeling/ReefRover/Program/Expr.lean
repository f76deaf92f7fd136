import ReefRover.Scalar

/-!
This module contains the expressions of the logic and sensing blocks and their evaluation. Sensors
have no physical model: bumpers, the distance sensor and the eye read fixed values, all others read
the robot.
-/

namespace ReefRover

inductive CompareOp where
  | eq
  | neq
  | lt
  | lte
  | gt
  | gte
deriving DecidableEq, Repr

namespace CompareOp

def symbol : CompareOp → String
  | eq => "="
  | neq => "≠"
  | lt => "<"
  | lte => "≤"
  | gt => ">"
  | gte => "≥"

def ofNumbers {R : Type} [Scalar R] (op : CompareOp) (a b : R) : Bool :=
  match op with
  | eq => a == b
  | neq => a != b
  | lt => decide (a < b)
  | lte => decide (a ≤ b)
  | gt => decide (b < a)
  | gte => decide (b ≤ a)

def ofBooleans (op : CompareOp) (a b : Bool) : Option Bool :=
  match op with
  | eq => some (a == b)
  | neq => some (a != b)
  | lt | lte | gt | gte => none

end CompareOp

inductive LogicOp where
  | and
  | or
deriving DecidableEq, Repr

namespace LogicOp

def symbol : LogicOp → String
  | and => "and"
  | or => "or"

def apply : LogicOp → Bool → Bool → Bool
  | and, a, b => a && b
  | or, a, b => a || b

end LogicOp

inductive Sensor where
  | leftBumperPressed
  | rightBumperPressed
  | distanceFound
  | distanceMm
  | eyeNearObject
  | eyeDetectsColor
  | positionX
  | positionY
  | driveRotation
  | driveHeading
  | timerSeconds
deriving DecidableEq, Repr

structure Readings (R : Type) where
  x : R
  y : R
  rotation : R
  heading : R
  /-- Seconds since the run started. -/
  timer : R
deriving DecidableEq, Repr

inductive Value (R : Type) where
  | bool (b : Bool)
  | number (x : R)
deriving DecidableEq, Repr

inductive ValueType where
  | boolean
  | number
deriving DecidableEq, Repr

namespace ValueType

def name : ValueType → String
  | boolean => "boolean"
  | number => "number"

end ValueType

namespace Value

variable {R : Type}

def type : Value R → ValueType
  | bool _ => .boolean
  | number _ => .number

end Value

namespace Sensor

variable {R : Type} [Scalar R]

def read (sensor : Sensor) (readings : Readings R) : Value R :=
  match sensor with
  | leftBumperPressed
  | rightBumperPressed
  | distanceFound
  | eyeNearObject
  | eyeDetectsColor => .bool false
  | distanceMm => .number Scalar.zero
  | positionX => .number readings.x
  | positionY => .number readings.y
  | driveRotation => .number readings.rotation
  | driveHeading => .number readings.heading
  | timerSeconds => .number readings.timer

end Sensor

/-- Why an expression has no value. The operator of a type mismatch is given by its symbol. -/
inductive EvalError where
  | typeMismatch (op : String) (lhs rhs : ValueType)
  | expectedBoolean (found : ValueType)
  | nonFinite
deriving DecidableEq, Repr

namespace EvalError

def message : EvalError → String
  | typeMismatch op lhs rhs => s!"cannot apply `{op}` to {lhs.name} and {rhs.name}"
  | expectedBoolean found => s!"expected a boolean, found a {found.name}"
  | nonFinite => "number literal is not finite"

end EvalError

inductive Expr (R : Type) where
  | boolean (value : Bool)
  | number (value : R)
  | not (operand : Expr R)
  | compare (op : CompareOp) (lhs rhs : Expr R)
  | logic (op : LogicOp) (lhs rhs : Expr R)
  | sensor (sensor : Sensor)
deriving DecidableEq, BEq, Repr

namespace Value

variable {R : Type} [Scalar R]

def compare (op : CompareOp) : Value R → Value R → Except EvalError (Value R)
  | number a, number b => .ok (bool (op.ofNumbers a b))
  | bool a, bool b =>
    match op.ofBooleans a b with
    | some result => .ok (bool result)
    | none => .error (.typeMismatch op.symbol .boolean .boolean)
  | a, b => .error (.typeMismatch op.symbol a.type b.type)

def logic (op : LogicOp) : Value R → Value R → Except EvalError (Value R)
  | bool a, bool b => .ok (bool (op.apply a b))
  | a, b => .error (.typeMismatch op.symbol a.type b.type)

def truth : Value R → Except EvalError Bool
  | bool b => .ok b
  | a => .error (.expectedBoolean a.type)

end Value

namespace Expr

variable {R : Type} [Scalar R]

/--
The value of an expression. Both operands of a binary operator are always evaluated, the left one
first, so a logic block never hides a fault in its right operand.
-/
def eval (readings : Readings R) : Expr R → Except EvalError (Value R)
  | boolean value => .ok (.bool value)
  | number value => if Scalar.isFinite value then .ok (.number value) else .error .nonFinite
  | not operand => do
    let b ← (← operand.eval readings).truth
    return .bool (!b)
  | compare op lhs rhs => do
    let a ← lhs.eval readings
    let b ← rhs.eval readings
    Value.compare op a b
  | logic op lhs rhs => do
    let a ← lhs.eval readings
    let b ← rhs.eval readings
    Value.logic op a b
  | sensor s => .ok (s.read readings)

def test (e : Expr R) (readings : Readings R) : Except EvalError Bool := do
  (← e.eval readings).truth

end Expr

end ReefRover
