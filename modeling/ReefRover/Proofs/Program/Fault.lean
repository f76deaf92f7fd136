import ReefRover.Machine.Basic
import ReefRover.Proofs.Machine.Deed
import ReefRover.Proofs.Program.Bodies
import ReefRover.Proofs.Program.Typing

/-!
This module contains the faults of programs that can be seen without running them: a number that is
not finite, a condition that is none, and a `break` that lies in no loop.
-/

namespace ReefRover

variable {R : Type} [Scalar R]

def Op.numbers : Op R → List (String × R)
  | .action a => a.number?.toList
  | .repeatTimes times _ => (times.map ("times", ·)).toList
  | .waitUntil _ | .forever _ | .repeatUntil .. | .whileDo .. | .ifThen .. | .ifThenElse ..
  | .ifElseIfElse .. | .breakLoop | .stopProject => []

namespace Program

/-- A fault of a program, and the error that it shows up as. -/
inductive Fault (p : Program R) : ExecutionError R → Prop where
  | nonFinite {op : Op R} {field : String} {value : R} (hop : op ∈ blocks p)
      (hnumber : (field, value) ∈ op.numbers) (hvalue : Scalar.isFinite value = false) :
    Fault p (.nonFinite op.name field value)
  | condition {op : Op R} {condition : Expr R} {source : EvalError} (hop : op ∈ blocks p)
      (hcondition : condition ∈ op.conditions) (hsource : condition.fault? = some source) :
    Fault p (.condition op.name source)
  | breakOutsideLoop {body : List (Op R)} (hbody : body ∈ unlooped p) (hbreak : .breakLoop ∈ body) :
    Fault p .breakOutsideLoop

structure Faultless (p : Program R) : Prop where
  numbers_finite : ∀ op ∈ blocks p, ∀ number ∈ op.numbers, Scalar.isFinite number.2 = true
  conditions_typed : ∀ op ∈ blocks p, ∀ condition ∈ op.conditions, condition.type? = .ok .boolean
  breaks_enclosed : ∀ body ∈ unlooped p, .breakLoop ∉ body

theorem Faultless.not_fault {p : Program R} (h : p.Faultless) (e : ExecutionError R) :
    ¬ Fault p e := by
  intro hfault
  cases hfault with
  | nonFinite hop hnumber hvalue =>
    rw [h.numbers_finite _ hop _ hnumber] at hvalue
    cases hvalue
  | condition hop hcondition hsource =>
    have htype := h.conditions_typed _ hop _ hcondition
    rw [Expr.fault?, htype] at hsource
    cases hsource
  | breakOutsideLoop hbody hbreak => exact h.breaks_enclosed _ hbody hbreak

end Program

end ReefRover
