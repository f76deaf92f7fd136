import ReefRover.Decimal.Fixed
import ReefRover.Layout
import ReefRover.Run.LogLine
import ReefRover.Run.Outcome

/-!
This module contains the notices of the playground: what is noted, how grave it is, and how it is
put.
-/

namespace ReefRover

inductive Notice (R : Type) where
  | reefGenerated (pieces : Nat) (layout : Layout)
  | ready (layout : Layout) (seed : UInt64)
  | startRefused
  | layoutRefused
  | layoutSet (layout : Layout)
  | runStarted (instructions bodies : Nat)
  | runEnded (outcome : RunOutcome R)
  | trashSpawned (id : UInt32)
  | trashCollected (id total : UInt32)
  | coralHit (index : Nat) (x y : R)
  | console (text : String)
deriving DecidableEq, Repr

namespace Notice

def level {R : Type} : Notice R → Level
  | runEnded (.failed _) => .error
  | startRefused | layoutRefused | coralHit .. => .warn
  | reefGenerated .. | trashSpawned _ | trashCollected .. => .debug
  | ready .. | layoutSet _ | runStarted .. | runEnded _ | console _ => .info

def source {R : Type} : Notice R → LogSource
  | reefGenerated .. | trashSpawned _ | trashCollected .. => .ocean
  | console _ => .blocks
  | ready .. | startRefused | layoutRefused | layoutSet _ | runStarted .. | runEnded _
  | coralHit .. => .controller

def text : Notice Float32 → String
  | reefGenerated pieces layout =>
    "Reef generated: " ++ toString pieces ++ " coral pieces (" ++ layout.name ++ ")"
  | ready layout seed =>
    "Playground ready (" ++ layout.name ++ " layout, seed " ++ toString seed ++ ")"
  | startRefused => "Start ignored: a program is already running"
  | layoutRefused => "Layout change refused while running"
  | layoutSet layout => "Layout set to " ++ layout.name
  | runStarted instructions bodies =>
    s!"Run started: {instructions} instructions in {bodies} bodies"
  | runEnded .completed => "Run completed"
  | runEnded .stopped => "Run stopped"
  | runEnded .collision => "Run lost: collision"
  | runEnded (.failed error) => "Run failed: " ++ error.message
  | trashSpawned id => s!"Spawned trash #{id}"
  | trashCollected id total => s!"Collected trash #{id} (total {total})"
  | coralHit index x y =>
    s!"Robot hit coral #{index} at (" ++ fixed 1 x ++ ", " ++ fixed 1 y ++ ")"
  | console text => text

def toLine (notice : Notice Float32) : LogLine :=
  { level := notice.level, source := notice.source, text := notice.text }

end Notice

end ReefRover
