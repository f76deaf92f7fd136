import ReefRover.Layout
import ReefRover.Point
import ReefRover.Random

/-!
This module contains what is in the ocean: trash to collect, coral to keep clear of, and the state
of the spawner.
-/

namespace ReefRover

inductive TrashKind where
  | bottle
  | can
  | bag
  | net
deriving DecidableEq, Repr

namespace TrashKind

def name : TrashKind → String
  | bottle => "Bottle"
  | can => "Can"
  | bag => "Bag"
  | net => "Net"

def all : List TrashKind :=
  [bottle, can, bag, net]

def choice : Json.Choice TrashKind :=
  .ofNames name all

end TrashKind

structure TrashItem (R : Type) where
  id : UInt32
  position : Point R
  kind : TrashKind
  /-- The current scale, which grows from 0 to `targetScale` after spawning. -/
  scale : R
  targetScale : R
  /-- The phase of idle bobbing, in radians. -/
  floatOffset : R
  isCollected : Bool
deriving DecidableEq, Repr

structure CoralPiece (R : Type) where
  position : Point R
  radius : R
  /-- Red, green and blue bytes. -/
  color : UInt32
deriving DecidableEq, Repr

structure Ocean (R : Type) where
  layout : Layout
  trash : List (TrashItem R)
  coral : List (CoralPiece R)
  /-- Seconds until the next spawn attempt. -/
  spawnTimer : R
  random : Generator
  nextId : UInt32
deriving DecidableEq, Repr

namespace Ocean

variable {R : Type} [Scalar R]

def empty (layout : Layout) (seed : UInt64) : Ocean R :=
  { layout
    trash := []
    coral := []
    spawnTimer := Scalar.zero
    random := .ofSeed seed
    nextId := 1 }

def center (ocean : Ocean R) : Point R :=
  let half := ocean.layout.canvasSize / Scalar.ofNat 2
  { x := half, y := half }

def liveTrash (ocean : Ocean R) : Nat :=
  ocean.trash.countP fun item => !item.isCollected

def clearTrash (ocean : Ocean R) : Ocean R :=
  { ocean with trash := [] }

def takeId (ocean : Ocean R) : UInt32 × Ocean R :=
  (ocean.nextId, { ocean with nextId := ocean.nextId + 1 })

end Ocean

end ReefRover
