import ReefRover.Proofs.Machine.Deed
import ReefRover.Proofs.Program.Bodies

/-!
This module contains walks: the execution of a program along its own blocks, without a script. A
walk keeps a stack of tasks, each of them what is left to do in a body, and of a loop also the loop
itself. Each step of a walk makes what is left lighter, so a walk gets to its next suspension.
-/

namespace ReefRover

inductive Guard (R : Type) where
  | untilTrue (condition : Expr R)
  | whileTrue (condition : Expr R)
deriving Repr

inductive Loop (R : Type) where
  /-- A counted loop with this many iterations left, the current one included. -/
  | times (left : Nat)
  | forever
  | guarded (guard : Guard R)
deriving Repr

inductive Task (R : Type) where
  /-- The rest of the program or of a branch. -/
  | block (todo : List (Op R))
  /-- The rest of an iteration. -/
  | iteration (todo : List (Op R)) (loop : Loop R) (body : List (Op R))
  /-- A loop whose condition is to be tested. -/
  | test (guard : Guard R) (body : List (Op R))

namespace Task

variable {R : Type}

def isLoop : Task R → Bool
  | block _ => false
  | iteration .. | test .. => true

def todo : Task R → List (Op R)
  | block todo | iteration todo _ _ => todo
  | test _ body => body

def weight : Task R → Nat
  | block todo | iteration todo _ _ => 1 + 3 * Program.size todo
  | test _ body => 2 + 3 * Program.size body

theorem weight_le (task : Task R) : task.weight ≤ 2 + 3 * Program.size task.todo := by
  cases task with
  | block todo | iteration todo loop body =>
    simp only [weight, Task.todo]
    omega
  | test guard body => exact Nat.le_refl _

end Task

inductive Pause (R : Type) where
  | nothing
  | motion
  | sleep (left : R)
  | poll (condition : Expr R) (left : R)
  | nextTick

structure Walker (R : Type) extends Rig R where
  /-- The innermost task comes first. -/
  tasks : List (Task R)
  pause : Pause R := .nothing
  console : Array String := #[]

namespace Walker

variable {R : Type} [Scalar R]

def test (w : Walker R) (around : Surroundings R) (condition : Expr R) (op : String) :
    Except (ExecutionError R) Bool :=
  (condition.test (w.robot.readings around.clock)).mapError (ExecutionError.condition op)

def keepsLooping (w : Walker R) (around : Surroundings R) :
    Guard R → Except (ExecutionError R) Bool
  | .untilTrue condition => (w.test around condition "repeatUntil").map not
  | .whileTrue condition => w.test around condition "while"

def take (w : Walker R) : Outcome R → Flow × Walker R
  | .goesOn rig line => (.next, { w with toRig := rig, console := extended w.console line })
  | .moves rig => (.suspend, { w with toRig := rig, pause := .motion })
  | .sleeps seconds => (.suspend, { w with pause := .sleep seconds })

def push (w : Walker R) (task : Task R) : Flow × Walker R :=
  (.next, { w with tasks := task :: w.tasks })

def outsideLoop? : List (Task R) → Option (List (Task R))
  | [] => none
  | task :: rest => if task.isLoop then some rest else outsideLoop? rest

def exec (w : Walker R) (around : Surroundings R) :
    Op R → Except (ExecutionError R) (Flow × Walker R)
  | .action action => (w.toRig.perform around action).map w.take
  | .waitUntil condition => do
    if ← w.test around condition "waitUntil" then
      return (.next, w)
    else
      return (.suspend, { w with pause := .poll condition Tuning.pollInterval })
  | .repeatTimes times body => do
    let times ← Machine.finite "repeatTimes" "times" (times.getD Tuning.defaultRepeat)
    let count := Scalar.count times
    if count = 0 then
      return (.next, w)
    else
      return w.push (.iteration body (.times count) body)
  | .forever body => return w.push (.iteration body .forever body)
  | .repeatUntil condition body => return w.push (.test (.untilTrue condition) body)
  | .whileDo condition body => return w.push (.test (.whileTrue condition) body)
  | .ifThen condition yes => do
    if ← w.test around condition "ifThen" then
      return w.push (.block yes)
    else
      return (.next, w)
  | .ifThenElse condition yes otherwise => do
    if ← w.test around condition "ifThenElse" then
      return w.push (.block yes)
    else
      return w.push (.block otherwise)
  | .ifElseIfElse condition yes elseIfCondition elseIf otherwise => do
    if ← w.test around condition "ifElseIfElse" then
      return w.push (.block yes)
    else if ← w.test around elseIfCondition "ifElseIfElse" then
      return w.push (.block elseIf)
    else
      return w.push (.block otherwise)
  | .breakLoop =>
    match outsideLoop? w.tasks with
    | some rest => return (.next, { w with tasks := rest })
    | none => throw .breakOutsideLoop
  | .stopProject =>
    return (.stop,
      { w with
        motion := none
        tasks := []
        console := w.console.push "stop project" })

abbrev Stride (R : Type) := Walker R × Option (Except (ExecutionError R) Progress)

def proceed (w : Walker R) (around : Surroundings R) (op : Op R) (tasks : List (Task R)) :
    Stride R :=
  let w := { w with tasks }
  match w.exec around op with
  | .ok (.next, w) => (w, none)
  | .ok (.suspend, w) => (w, some (.ok .pending))
  | .ok (.stop, w) => (w, some (.ok .stopped))
  | .error .breakOutsideLoop => ({ w with tasks := [] }, some (.error .breakOutsideLoop))
  | .error e => (w, some (.error e))

def endIteration (w : Walker R) (loop : Loop R) (body : List (Op R)) (rest : List (Task R)) :
    Stride R :=
  match loop with
  | .times left =>
    if left ≤ 1 then
      ({ w with tasks := rest }, none)
    else
      ({ w with tasks := .iteration body (.times (left - 1)) body :: rest, pause := .nextTick },
        some (.ok .pending))
  | .forever =>
    ({ w with tasks := .iteration body .forever body :: rest, pause := .sleep Tuning.foreverYield },
      some (.ok .pending))
  | .guarded guard =>
    ({ w with tasks := .test guard body :: rest, pause := .nextTick }, some (.ok .pending))

def step (w : Walker R) (around : Surroundings R) : Stride R :=
  match w.tasks with
  | [] => (w, some (.ok .finished))
  | .block [] :: rest => ({ w with tasks := rest }, none)
  | .block (op :: todo) :: rest => w.proceed around op (.block todo :: rest)
  | .iteration [] loop body :: rest => w.endIteration loop body rest
  | .iteration (op :: todo) loop body :: rest =>
    w.proceed around op (.iteration todo loop body :: rest)
  | .test guard body :: rest =>
    -- a loop whose test fails is left as if the test had been passed
    let inside := { w with tasks := .iteration body (.guarded guard) body :: rest }
    match w.keepsLooping around guard with
    | .ok true => (inside, none)
    | .ok false => ({ w with tasks := rest }, none)
    | .error e => (inside, some (.error e))

end Walker

end ReefRover
