import ReefRover.Machine.Report

/-!
This module contains how runs end, what is reported about them, and the events of a game.
-/

namespace ReefRover

inductive RunOutcome (R : Type) where
  /-- The program ran to its end. -/
  | completed
  /-- The program or the host stopped the run. -/
  | stopped
  /-- The robot touched the reef. -/
  | collision
  | failed (error : ExecutionError R)
deriving DecidableEq, BEq, Repr

namespace RunOutcome

def isLoss {R : Type} : RunOutcome R → Bool
  | collision | failed _ => true
  | completed | stopped => false

def toJson : RunOutcome Float32 → Json
  | completed => .obj [("kind", .str "completed")]
  | stopped => .obj [("kind", .str "stopped")]
  | collision => .obj [("kind", .str "collision")]
  | failed error => .obj [("kind", .str "failed"), ("error", error.toJson)]

def describe : RunOutcome Float32 → String
  | completed => "Completed"
  | stopped => "Stopped"
  | collision => "Collision"
  | failed error => "Failed(" ++ error.describe ++ ")"

end RunOutcome

inductive RunPhase (R : Type) where
  | idle
  | running
  | finished (outcome : RunOutcome R)
deriving DecidableEq, BEq, Repr

namespace RunPhase

def isRunning {R : Type} : RunPhase R → Bool
  | running => true
  | idle | finished _ => false

def toJson : RunPhase Float32 → Json
  | idle => .obj [("phase", .str "idle")]
  | running => .obj [("phase", .str "running")]
  | finished outcome => .obj [("phase", .str "finished"), ("outcome", outcome.toJson)]

end RunPhase

structure RunReport (R : Type) where
  outcome : RunOutcome R
  trashCollected : UInt32
deriving DecidableEq, BEq, Repr

namespace RunReport

def members (report : RunReport Float32) : List (String × Json) :=
  [("outcome", report.outcome.toJson), ("trash_collected", .nat report.trashCollected.toNat)]

def toJson (report : RunReport Float32) : Json :=
  .obj report.members

end RunReport

inductive GameEvent (R : Type) where
  | trashSpawned (id : UInt32)
  | trashCollected (id total : UInt32)
  | coralHit (index : Nat)
  | runFinished (report : RunReport R)
deriving DecidableEq, BEq, Repr

namespace GameEvent

def toJson : GameEvent Float32 → Json
  | trashSpawned id => .obj [("event", .str "trashSpawned"), ("id", .nat id.toNat)]
  | trashCollected id total =>
    .obj [("event", .str "trashCollected"), ("id", .nat id.toNat), ("total", .nat total.toNat)]
  | coralHit index => .obj [("event", .str "coralHit"), ("index", .nat index)]
  | runFinished report => .obj (("event", .str "runFinished") :: report.members)

end GameEvent

end ReefRover
