import ReefRover.Motion
import ReefRover.Program.Script

/-!
This module contains the state of a running program. An interpreter holds a script, a stack of
frames (which body is being executed, and how far) and what it is waiting for. A machine is an
interpreter at work on a rig.
-/

namespace ReefRover

inductive ExecutionError (R : Type) where
  | condition (op : String) (source : EvalError)
  | nonFinite (op field : String) (value : R)
  | breakOutsideLoop
  | motionInFlight (op : String)
  | malformed (reason : String)
deriving DecidableEq, BEq, Repr

inductive Progress where
  | pending
  | finished
  | stopped
  | cancelled
deriving DecidableEq, Repr

namespace Progress

def name : Progress → String
  | pending => "Pending"
  | finished => "Finished"
  | stopped => "Stopped"
  | cancelled => "Cancelled"

end Progress

inductive LoopKind where
  /-- A counted loop with this many iterations left, the current one included. -/
  | times (remaining : Nat)
  | forever
  | untilTrue (condition : CondId)
  | whileTrue (condition : CondId)
deriving DecidableEq, Repr

inductive FrameKind where
  /-- The top-level body or a branch. -/
  | block
  | loop (kind : LoopKind)
deriving DecidableEq, Repr

namespace FrameKind

def isLoop : FrameKind → Bool
  | block => false
  | loop _ => true

end FrameKind

structure Frame where
  body : BodyId
  /-- The position of the next instruction. -/
  next : Nat := 0
  kind : FrameKind
  /-- Whether a loop condition has to be tested before the next instruction. -/
  checkPending : Bool := false
deriving DecidableEq, Repr

namespace Frame

def block (body : BodyId) : Frame :=
  { body, kind := .block }

/-- A loop before its first iteration. A loop with a condition tests it first. -/
def looping (body : BodyId) (kind : LoopKind) : Frame :=
  { body
    kind := .loop kind
    checkPending :=
      match kind with
      | .untilTrue _ | .whileTrue _ => true
      | .times _ | .forever => false }

end Frame

inductive Wait (R : Type) where
  | nothing
  | motion
  | sleep (left : R)
  /-- A condition to hold, which is looked at again when the seconds left have passed. -/
  | poll (condition : CondId) (left : R)
  | nextTick
deriving DecidableEq, Repr

structure Interpreter (R : Type) where
  script : Script R
  /-- The innermost body comes first. -/
  frames : List Frame := [.block Script.root]
  wait : Wait R := .nothing
deriving DecidableEq, Repr

structure Machine (R : Type) extends Interpreter R, Rig R where
  /-- What the blocks wrote in the latest timestep. -/
  console : Array String := #[]
deriving DecidableEq, Repr

structure Surroundings (R : Type) where
  /-- The layout factor, which scales drives. -/
  scale : R
  /-- Seconds since the run started. -/
  clock : R
deriving DecidableEq, Repr

namespace Machine

variable {R : Type} [Scalar R]

def start (script : Script R) (origin : Point R) : Machine R :=
  { script, toRig := .atRest origin }

def isDone (m : Machine R) : Bool :=
  m.frames.isEmpty

def depth (m : Machine R) : Nat :=
  m.frames.length

def write (m : Machine R) (text : String) : Machine R :=
  { m with console := m.console.push text }

def withRig (m : Machine R) (rig : Rig R) : Machine R :=
  { m with toRig := rig }

def test (m : Machine R) (around : Surroundings R) (condition : CondId) (op : String) :
    Except (ExecutionError R) Bool :=
  ((m.script.condition condition).test (m.robot.readings around.clock)).mapError
    (ExecutionError.condition op)

end Machine

end ReefRover
