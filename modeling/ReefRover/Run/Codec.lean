import ReefRover.Ocean.Codec
import ReefRover.Program.Codec
import ReefRover.Run.Controller
import ReefRover.Scalar.Single

/-!
This module contains what the run controller takes and gives as text: programs, and pictures of
everything that has to be drawn.
-/

namespace ReefRover

namespace Controller

def startText (c : Controller Float32) (text : String) :
    Except ControlError Unit × Controller Float32 :=
  c.startDecoded (Program.ofText text)

def snapshot (c : Controller Float32) : Json :=
  .obj
    [("phase", c.phase.toJson), ("robot", c.robot.toJson), ("game", c.game.toJson),
      ("trash", .arr (c.ocean.trash.map TrashItem.toJson)),
      ("coral", .arr (c.ocean.coral.map CoralPiece.toJson))]

end Controller

end ReefRover
