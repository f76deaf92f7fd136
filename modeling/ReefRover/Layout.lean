import ReefRover.Json.Decode
import ReefRover.Tuning

/-!
This module contains the sizes of the playground. The layout factor scales the robot, the reef, the
trash and the length of drives alike.
-/

namespace ReefRover

inductive Layout where
  | normal
  | enlarged
deriving DecidableEq, Repr

namespace Layout

def name : Layout → String
  | normal => "Normal"
  | enlarged => "Enlarged"

def choice : Json.Choice Layout :=
  .ofNames name [normal, enlarged]

/--
The layout that a word asks for, in any case. Only the case of ASCII letters is looked at, since no
other character has one of these letters as its lower case.
-/
def ofWord? (word : String) : Option Layout :=
  match word.toLower with
  | "normal" => some normal
  | "enlarged" | "large" | "maximized" => some enlarged
  | _ => none

variable {R : Type} [Scalar R]

def factor : Layout → R
  | normal => Scalar.one
  | enlarged => Scalar.ratio 3 2

def canvasSize (layout : Layout) : R :=
  Tuning.canvasSize * layout.factor

end Layout

end ReefRover
