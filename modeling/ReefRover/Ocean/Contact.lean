import ReefRover.Ocean.Basic

/-!
This module contains the contacts of the robot with trash and coral. Everything is a circle on the
canvas, and two circles that merely touch are not in contact.
-/

namespace ReefRover

structure Contact (R : Type) where
  index : Nat
  distance : R
  penetration : R
deriving DecidableEq, Repr

namespace Contact

variable {R : Type} [Scalar R]

def robotRadius (factor : R) : R :=
  Tuning.robotRadius * factor

/-- The radius in which an item is picked up, which grows with its scale. -/
def trashRadius (item : TrashItem R) (factor : R) : R :=
  Tuning.trashRadius * factor * item.scale

def ofCircles? (p : Point R) (radius : R) (q : Point R) (radius' : R) (index : Nat) :
    Option (Contact R) :=
  let distance := p.distance q
  let reach := radius + radius'
  if distance < reach then
    some { index, distance, penetration := reach - distance }
  else
    none

def ofTrash? (robot : Point R) (factor : R) (item : TrashItem R) (index : Nat) :
    Option (Contact R) :=
  if item.isCollected then
    none
  else
    ofCircles? robot (robotRadius factor) item.position (trashRadius item factor) index

/-- The trash within reach, in the order of the list. -/
def withTrash (robot : Point R) (factor : R) (trash : List (TrashItem R)) : List (Contact R) :=
  trash.zipIdx.filterMap fun (item, index) => ofTrash? robot factor item index

/-- The first coral piece that the robot overlaps. -/
def withCoral? (robot : Point R) (factor : R) (coral : List (CoralPiece R)) :
    Option (Contact R) :=
  coral.zipIdx.findSome? fun (piece, index) =>
    ofCircles? robot (robotRadius factor) piece.position piece.radius index

end Contact

end ReefRover
