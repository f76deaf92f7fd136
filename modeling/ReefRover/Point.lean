import ReefRover.Scalar

/-!
This module contains points of the canvas. The x axis points right and the y axis points down.
-/

namespace ReefRover

structure Point (R : Type) where
  x : R
  y : R
deriving DecidableEq, Repr

namespace Point

variable {R : Type} [Scalar R]

/-- The point that lies `length` away in the direction of the unit vector `direction`. -/
def toward (p : Point R) (direction : R × R) (length : R) : Point R :=
  { x := p.x + direction.1 * length, y := p.y + direction.2 * length }

def distance (p q : Point R) : R :=
  let dx := p.x - q.x
  let dy := p.y - q.y
  Scalar.sqrt (dx * dx + dy * dy)

def offset (p q : Point R) : Point R :=
  { x := p.x + q.x, y := p.y + q.y }

end Point

end ReefRover
