import ReefRover.Ocean.Basic

/-!
This module contains the making of the reef. Pieces of coral sit in evenly spaced cells along all
four edges, each with a random inset, radius and colour.
-/

namespace ReefRover

namespace Reef

variable {R : Type} [Scalar R]

inductive Edge where
  | top
  | right
  | bottom
  | left
deriving DecidableEq, Repr

namespace Edge

def all : List Edge :=
  [top, right, bottom, left]

/-- The point `along` an edge and `inset` from it, on a canvas with edges of length `size`. -/
def place (edge : Edge) (size along inset : R) : Point R :=
  match edge with
  | top => { x := along, y := inset }
  | right => { x := size - inset, y := along }
  | bottom => { x := size - along, y := size - inset }
  | left => { x := inset, y := size - along }

end Edge

def piece (layout : Layout) (cell : Nat) (edge : Edge) : Random (CoralPiece R) := do
  let factor : R := layout.factor
  let spacing := Tuning.coralSpacing * factor
  let along := (Scalar.ofNat cell + Scalar.ratio 1 2) * spacing
  let inset := (← Random.range Scalar.zero Tuning.coralMaxInset) * factor
  let radius := (← Random.range Tuning.coralMinRadius Tuning.coralMaxRadius) * factor
  let color ← Random.index Tuning.coralPalette.length
  return {
    position := edge.place layout.canvasSize along inset
    radius
    color := Tuning.coralPalette[color]?.getD 0 }

def cells (R : Type) [Scalar R] (layout : Layout) : Nat :=
  let spacing : R := Tuning.coralSpacing * layout.factor
  Scalar.count (layout.canvasSize / spacing)

/-- All pieces, cell by cell and clockwise within a cell. -/
def pieces (layout : Layout) : Random (List (CoralPiece R)) :=
  let places := (List.range (cells R layout)).flatMap fun cell =>
    Edge.all.map fun edge => (cell, edge)
  places.mapM fun (cell, edge) => piece layout cell edge

end Reef

namespace Ocean

variable {R : Type} [Scalar R]

def growReef (ocean : Ocean R) : Ocean R :=
  let drawn := (Reef.pieces ocean.layout).run ocean.random
  { ocean with coral := drawn.1, random := drawn.2 }

end Ocean

end ReefRover
