import ReefRover.Program.Op

/-!
This module contains scripts, the flat form of programs. A script is a table of bodies, each a list
of instructions, and a table of conditions; instructions name the bodies and conditions that belong
to them by index. A place in a program is then a body and a position in it.
-/

namespace ReefRover

structure BodyId where
  index : Nat
deriving DecidableEq, Repr

structure CondId where
  index : Nat
deriving DecidableEq, Repr

inductive Instr (R : Type) where
  | action (action : Action R)
  | waitUntil (condition : CondId)
  | repeatTimes (times : Option R) (body : BodyId)
  | forever (body : BodyId)
  | repeatUntil (condition : CondId) (body : BodyId)
  | whileDo (condition : CondId) (body : BodyId)
  | ifThen (condition : CondId) (yes : BodyId)
  | ifThenElse (condition : CondId) (yes : BodyId) (otherwise : BodyId)
  | ifElseIfElse (condition : CondId) (yes : BodyId) (elseIfCondition : CondId) (elseIf : BodyId)
      (otherwise : BodyId)
  | breakLoop
  | stopProject
deriving DecidableEq, Repr

namespace Instr

variable {R : Type}

def name : Instr R → String
  | action a => a.name
  | waitUntil _ => "waitUntil"
  | repeatTimes .. => "repeatTimes"
  | forever _ => "forever"
  | repeatUntil .. => "repeatUntil"
  | whileDo .. => "while"
  | ifThen .. => "ifThen"
  | ifThenElse .. => "ifThenElse"
  | ifElseIfElse .. => "ifElseIfElse"
  | breakLoop => "break"
  | stopProject => "stopProject"

def bodies : Instr R → List BodyId
  | repeatTimes _ body | forever body | repeatUntil _ body | whileDo _ body => [body]
  | ifThen _ yes => [yes]
  | ifThenElse _ yes otherwise => [yes, otherwise]
  | ifElseIfElse _ yes _ elseIf otherwise => [yes, elseIf, otherwise]
  | action _ | waitUntil _ | breakLoop | stopProject => []

def conditions : Instr R → List CondId
  | waitUntil c | repeatUntil c _ | whileDo c _ | ifThen c _ | ifThenElse c _ _ => [c]
  | ifElseIfElse c _ d _ _ => [c, d]
  | action _ | repeatTimes .. | forever _ | breakLoop | stopProject => []

end Instr

structure Script (R : Type) where
  bodies : Array (Array (Instr R))
  conditions : Array (Expr R)
deriving DecidableEq, Repr

mutual

def Op.innerBodies {R : Type} : Op R → Nat
  | .repeatTimes _ body | .forever body | .repeatUntil _ body | .whileDo _ body =>
    1 + Op.bodiesWithin body
  | .ifThen _ yes => 1 + Op.bodiesWithin yes
  | .ifThenElse _ yes otherwise => (1 + Op.bodiesWithin yes) + (1 + Op.bodiesWithin otherwise)
  | .ifElseIfElse _ yes _ elseIf otherwise =>
    (1 + Op.bodiesWithin yes) + (1 + Op.bodiesWithin elseIf) + (1 + Op.bodiesWithin otherwise)
  | .action _ | .waitUntil _ | .breakLoop | .stopProject => 0

def Op.bodiesWithin {R : Type} : List (Op R) → Nat
  | [] => 0
  | op :: ops => op.innerBodies + Op.bodiesWithin ops

end

namespace Script

variable {R : Type}

def root : BodyId := ⟨0⟩

/-- The instructions of a body; a name that belongs to none has no instructions. -/
def body (script : Script R) (id : BodyId) : Array (Instr R) :=
  script.bodies[id.index]?.getD #[]

/-- A condition; a name that belongs to none is false. -/
def condition (script : Script R) (id : CondId) : Expr R :=
  script.conditions[id.index]?.getD (.boolean false)

def bodyCount (script : Script R) : Nat :=
  script.bodies.size

def instrCount (script : Script R) : Nat :=
  script.bodies.foldl (fun total body => total + body.size) 0

/--
A script under construction: bodies that were given a name but not yet filled wait in `pending`,
the last one first.
-/
structure Builder (R : Type) where
  script : Script R
  pending : List (BodyId × List (Op R))

namespace Builder

/-- The number of bodies still to fill, counting those that filling them will add. -/
def remaining (b : Builder R) : Nat :=
  b.pending.foldr (fun p total => 1 + Op.bodiesWithin p.2 + total) 0

def nameCondition (e : Expr R) : StateM (Builder R) CondId :=
  modifyGet fun b =>
    (⟨b.script.conditions.size⟩,
      { b with script := { b.script with conditions := b.script.conditions.push e } })

def nameBody (ops : List (Op R)) : StateM (Builder R) BodyId :=
  modifyGet fun b =>
    let id : BodyId := ⟨b.script.bodies.size⟩
    (id, { script := { b.script with bodies := b.script.bodies.push #[] },
           pending := (id, ops) :: b.pending })

def instr : Op R → StateM (Builder R) (Instr R)
  | .action a => return .action a
  | .waitUntil c => return .waitUntil (← nameCondition c)
  | .repeatTimes times body => return .repeatTimes times (← nameBody body)
  | .forever body => return .forever (← nameBody body)
  | .repeatUntil c body => return .repeatUntil (← nameCondition c) (← nameBody body)
  | .whileDo c body => return .whileDo (← nameCondition c) (← nameBody body)
  | .ifThen c yes => return .ifThen (← nameCondition c) (← nameBody yes)
  | .ifThenElse c yes otherwise =>
    return .ifThenElse (← nameCondition c) (← nameBody yes) (← nameBody otherwise)
  | .ifElseIfElse c yes d elseIf otherwise =>
    return .ifElseIfElse (← nameCondition c) (← nameBody yes) (← nameCondition d)
      (← nameBody elseIf) (← nameBody otherwise)
  | .breakLoop => return .breakLoop
  | .stopProject => return .stopProject

def instrs : List (Op R) → StateM (Builder R) (List (Instr R))
  | [] => return []
  | op :: ops => return (← instr op) :: (← instrs ops)

def fill (b : Builder R) (id : BodyId) (content : List (Instr R)) : Builder R :=
  { b with script :=
      { b.script with bodies := b.script.bodies.setIfInBounds id.index content.toArray } }

theorem remaining_instr (op : Op R) (b : Builder R) :
    ((instr op).run b).2.remaining = b.remaining + op.innerBodies := by
  cases op with
  | action | waitUntil | breakLoop | stopProject => rfl
  | repeatTimes _ body | forever body | repeatUntil _ body | whileDo _ body | ifThen _ body =>
    show 1 + Op.bodiesWithin body + b.remaining = _
    rw [Op.innerBodies]
    omega
  | ifThenElse _ yes otherwise =>
    show 1 + Op.bodiesWithin otherwise + (1 + Op.bodiesWithin yes + b.remaining) = _
    rw [Op.innerBodies]
    omega
  | ifElseIfElse _ yes _ elseIf otherwise =>
    show 1 + Op.bodiesWithin otherwise + (1 + Op.bodiesWithin elseIf +
      (1 + Op.bodiesWithin yes + b.remaining)) = _
    rw [Op.innerBodies]
    omega

theorem remaining_instrs (ops : List (Op R)) (b : Builder R) :
    ((instrs ops).run b).2.remaining = b.remaining + Op.bodiesWithin ops := by
  induction ops generalizing b with
  | nil => rfl
  | cons op ops ih =>
    have hrun : ((instrs (op :: ops)).run b).2 = ((instrs ops).run ((instr op).run b).2).2 := rfl
    rw [hrun, ih, remaining_instr, Op.bodiesWithin]
    omega

def complete (b : Builder R) : Script R :=
  match _h : b.pending with
  | [] => b.script
  | (id, ops) :: rest =>
    let filled := (instrs ops).run { b with pending := rest }
    (filled.2.fill id filled.1).complete
termination_by b.remaining
decreasing_by
  have hs := remaining_instrs ops { b with pending := rest }
  simp_all only [fill, remaining, List.foldr_cons]
  omega

end Builder

/--
The flat form of a program. Names are given in the order in which blocks are met; the body named
last is filled first, so the depth of nesting is held by a list of pending bodies.
-/
def ofProgram (program : Program R) : Script R :=
  let start : Builder R :=
    { script := { bodies := #[#[]], conditions := #[] }, pending := [(root, program)] }
  start.complete

end Script

end ReefRover
