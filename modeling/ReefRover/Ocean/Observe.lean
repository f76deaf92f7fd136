import ReefRover.Ocean.Contact

/-!
This module contains the game and its scoring: trash within reach of the robot is collected, and
coral in its way is reported.
-/

namespace ReefRover

structure GameState where
  trashCollected : UInt32 := 0
  isGameOver : Bool := false
  gameLost : Bool := false
  isSpawningTrash : Bool := false
deriving DecidableEq, Repr

namespace GameState

def lose (game : GameState) : GameState :=
  { game with isGameOver := true, gameLost := true, isSpawningTrash := false }

end GameState

structure Pickup where
  id : UInt32
  /-- The score with this piece counted in. -/
  total : UInt32
deriving DecidableEq, Repr

namespace TrashItem

variable {R : Type} [Scalar R]

def isInReach (robot : Point R) (factor : R) (item : TrashItem R) : Bool :=
  (Contact.ofTrash? robot factor item 0).isSome

/-- Collects the items within reach, the score being `total` so far. -/
def collect (robot : Point R) (factor : R) (total : UInt32) :
    List (TrashItem R) → List Pickup × List (TrashItem R)
  | [] => ([], [])
  | item :: items =>
    if item.isInReach robot factor then
      let (pickups, items) := collect robot factor (total + 1) items
      ({ id := item.id, total := total + 1 } :: pickups, { item with isCollected := true } :: items)
    else
      let (pickups, items) := collect robot factor total items
      (pickups, item :: items)

end TrashItem

structure Observation (R : Type) where
  ocean : Ocean R
  game : GameState
  /-- What was collected, in the order of the list of trash. -/
  pickups : List Pickup
  contact : Option (Contact R)

namespace Ocean

variable {R : Type} [Scalar R]

/-- Collects the trash within reach of a robot, each piece once, and looks for coral. -/
def observe (ocean : Ocean R) (game : GameState) (robot : Point R) : Observation R :=
  let factor := ocean.layout.factor
  let (pickups, trash) := TrashItem.collect robot factor game.trashCollected ocean.trash
  { ocean := { ocean with trash }
    game := { game with trashCollected := game.trashCollected + UInt32.ofNat pickups.length }
    pickups
    contact := Contact.withCoral? robot factor ocean.coral }

end Ocean

end ReefRover
