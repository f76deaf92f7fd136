import Mathlib.Data.List.Forall2
import ReefRover.Program.Script

/-!
This module contains how a script is read back as a program: each name is replaced by the body or
condition that it stands for. A script whose bodies name only later bodies is read in finitely many
steps; a body that names itself or an earlier one is not read.
-/

namespace ReefRover

variable {R : Type}

def Instr.block? (condition? : CondId → Option (Expr R)) (body? : BodyId → Option (List (Op R))) :
    Instr R → Option (Op R)
  | .action a => some (.action a)
  | .waitUntil c => return .waitUntil (← condition? c)
  | .repeatTimes times body => return .repeatTimes times (← body? body)
  | .forever body => return .forever (← body? body)
  | .repeatUntil c body => return .repeatUntil (← condition? c) (← body? body)
  | .whileDo c body => return .whileDo (← condition? c) (← body? body)
  | .ifThen c yes => return .ifThen (← condition? c) (← body? yes)
  | .ifThenElse c yes otherwise =>
    return .ifThenElse (← condition? c) (← body? yes) (← body? otherwise)
  | .ifElseIfElse c yes d elseIf otherwise =>
    return .ifElseIfElse (← condition? c) (← body? yes) (← condition? d) (← body? elseIf)
      (← body? otherwise)
  | .breakLoop => some .breakLoop
  | .stopProject => some .stopProject

namespace Instr

variable {condition? condition?' : CondId → Option (Expr R)}
  {body? body?' : BodyId → Option (List (Op R))}

theorem block?_mono {instr : Instr R} {op : Op R}
    (hcond : ∀ c ∈ instr.conditions, ∀ e, condition? c = some e → condition?' c = some e)
    (hbody : ∀ b ∈ instr.bodies, ∀ ops, body? b = some ops → body?' b = some ops)
    (h : instr.block? condition? body? = some op) : instr.block? condition?' body?' = some op := by
  cases instr
  all_goals
    simp only [block?, conditions, bodies, List.mem_cons, List.not_mem_nil, or_false,
      forall_eq_or_imp, forall_eq, bind, Option.bind_eq_some_iff, pure, Option.some.injEq]
      at h hcond hbody ⊢
    grind

theorem exists_block? {instr : Instr R}
    (hcond : ∀ c ∈ instr.conditions, ∃ e, condition? c = some e)
    (hbody : ∀ b ∈ instr.bodies, ∃ ops, body? b = some ops) :
    ∃ op, instr.block? condition? body? = some op := by
  cases instr
  all_goals
    simp only [block?, conditions, bodies, List.mem_cons, List.not_mem_nil, or_false,
      forall_eq_or_imp, forall_eq, bind, Option.bind_eq_some_iff, pure, Option.some.injEq]
      at hcond hbody ⊢
    grind

end Instr

namespace Script

def condition? (s : Script R) (id : CondId) : Option (Expr R) :=
  s.conditions[id.index]?

def readBody? (s : Script R) (id : BodyId) : Option (List (Op R)) :=
  if id.index < s.bodies.size then
    (s.body id).toList.mapM
      -- a body that goes back to `id` or before it would never be read to its end
      (Instr.block? s.condition? fun inner =>
        if id.index < inner.index then s.readBody? inner else none)
  else
    none
termination_by s.bodies.size - id.index

def readInner? (s : Script R) (outer inner : BodyId) : Option (List (Op R)) :=
  if outer.index < inner.index then s.readBody? inner else none

end Script

theorem mapM_eq_some_iff {α β : Type} {f : α → Option β} {xs : List α} {ys : List β} :
    xs.mapM f = some ys ↔ List.Forall₂ (fun x y => f x = some y) xs ys := by
  induction xs generalizing ys with
  | nil => cases ys <;> simp
  | cons x xs ih =>
    rw [List.mapM_cons]
    cases ys with
    | nil => simp [bind, Option.bind_eq_some_iff]
    | cons y ys => simp [bind, Option.bind_eq_some_iff, ih]

namespace Script

theorem readBody?_eq_some_iff {s : Script R} {id : BodyId} {ops : List (Op R)} :
    s.readBody? id = some ops ↔
      id.index < s.bodyCount ∧
        List.Forall₂ (fun instr op => instr.block? s.condition? (s.readInner? id) = some op)
          (s.body id).toList ops := by
  rw [readBody?]
  by_cases h : id.index < s.bodies.size
  . simp only [h, if_true, mapM_eq_some_iff, bodyCount, true_and]
    rfl
  . simp [h, bodyCount]

theorem length_of_readBody? {s : Script R} {id : BodyId} {ops : List (Op R)}
    (h : s.readBody? id = some ops) : ops.length = (s.body id).size := by
  have := (readBody?_eq_some_iff.mp h).2.length_eq
  simpa using this.symm

end Script

end ReefRover
