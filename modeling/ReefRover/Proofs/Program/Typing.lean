import ReefRover.Program.Expr

/-!
This module contains the types of expressions. The type of an expression, or the reason why it has
none, is known without the readings of any sensor, and it is what becomes of the expression when it
is evaluated.
-/

namespace ReefRover

variable {R : Type}

def Sensor.type : Sensor → ValueType
  | .leftBumperPressed | .rightBumperPressed | .distanceFound | .eyeNearObject
  | .eyeDetectsColor => .boolean
  | .distanceMm | .positionX | .positionY | .driveRotation | .driveHeading
  | .timerSeconds => .number

namespace ValueType

def compare (op : CompareOp) : ValueType → ValueType → Except EvalError ValueType
  | number, number => .ok boolean
  | boolean, boolean =>
    match op with
    | .eq | .neq => .ok boolean
    | .lt | .lte | .gt | .gte => .error (.typeMismatch op.symbol boolean boolean)
  | number, boolean => .error (.typeMismatch op.symbol number boolean)
  | boolean, number => .error (.typeMismatch op.symbol boolean number)

def logic (op : LogicOp) : ValueType → ValueType → Except EvalError ValueType
  | boolean, boolean => .ok boolean
  | number, boolean => .error (.typeMismatch op.symbol number boolean)
  | boolean, number => .error (.typeMismatch op.symbol boolean number)
  | number, number => .error (.typeMismatch op.symbol number number)

def truth : ValueType → Except EvalError Unit
  | boolean => .ok ()
  | number => .error (.expectedBoolean number)

end ValueType

namespace Value

theorem type_logic (op : LogicOp) (a b : Value R) :
    (logic op a b).map type = ValueType.logic op a.type b.type := by
  cases a with
  | bool a => cases b <;> rfl
  | number a => cases b <;> rfl

theorem truth_type (a : Value R) : a.truth.map (fun _ => ()) = a.type.truth := by
  cases a <;> rfl

end Value

variable [Scalar R]

namespace Expr

/-- The type of an expression, its operands checked from left to right. -/
def type? : Expr R → Except EvalError ValueType
  | boolean _ => .ok .boolean
  | number value => if Scalar.isFinite value then .ok .number else .error .nonFinite
  | not operand => do
    (← operand.type?).truth
    return .boolean
  | compare op lhs rhs => do
    let a ← lhs.type?
    let b ← rhs.type?
    ValueType.compare op a b
  | logic op lhs rhs => do
    let a ← lhs.type?
    let b ← rhs.type?
    ValueType.logic op a b
  | sensor s => .ok s.type

/-- Why an expression is no condition, if it is none. -/
def fault? (e : Expr R) : Option EvalError :=
  match do (← e.type?).truth with
  | .ok () => none
  | .error source => some source

end Expr

theorem Sensor.type_read (s : Sensor) (readings : Readings R) :
    (s.read readings).type = s.type := by
  cases s <;> rfl

namespace Value

theorem type_compare (op : CompareOp) (a b : Value R) :
    (compare op a b).map type = ValueType.compare op a.type b.type := by
  cases a with
  | bool a =>
    cases b with
    | bool b => cases op <;> rfl
    | number b => rfl
  | number a =>
    cases b with
    | bool b => rfl
    | number b => rfl

end Value

namespace Expr

theorem type_eval (e : Expr R) (readings : Readings R) :
    (e.eval readings).map Value.type = e.type? := by
  induction e with
  | boolean value => rfl
  | number value =>
    unfold eval type?
    split <;> rfl
  | not operand ih =>
    rw [eval, type?, ← ih]
    cases operand.eval readings with
    | error source => rfl
    | ok a => cases a <;> rfl
  | compare op lhs rhs ihl ihr =>
    rw [eval, type?, ← ihl, ← ihr]
    cases lhs.eval readings with
    | error source => rfl
    | ok a =>
      cases rhs.eval readings with
      | error source => rfl
      | ok b => exact Value.type_compare op a b
  | logic op lhs rhs ihl ihr =>
    rw [eval, type?, ← ihl, ← ihr]
    cases lhs.eval readings with
    | error source => rfl
    | ok a =>
      cases rhs.eval readings with
      | error source => rfl
      | ok b => exact Value.type_logic op a b
  | sensor s => exact congrArg Except.ok (s.type_read readings)

theorem test_eq_error_iff {e : Expr R} {readings : Readings R} {source : EvalError} :
    e.test readings = .error source ↔ e.fault? = some source := by
  unfold test fault?
  rw [← type_eval e readings]
  cases e.eval readings with
  | error source' => simp [bind, Except.bind, Except.map]
  | ok a =>
    simp only [bind, Except.bind, Except.map]
    rw [← Value.truth_type]
    cases a.truth with
    | error source' => simp [Except.map]
    | ok b => simp [Except.map]

end Expr

end ReefRover
