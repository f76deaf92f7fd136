import ReefRover.Json.Fields
import ReefRover.Robot

/-!
This module contains the JSON form of the robot.
-/

namespace ReefRover

open Json (Fields Draft Decoder)

namespace Json

def Draft.single : Decoder Draft Float32 :=
  Draft.scalar Shape.single

end Json

namespace Pose

def toJson (pose : Pose Float32) : Json :=
  .obj [("x", .single pose.x), ("y", .single pose.y), ("rotation", .single pose.rotation)]

def fields : Fields Draft (Pose Float32) :=
  Pose.mk <$> .required "x" Draft.single <*> .required "y" Draft.single
    <*> .required "rotation" Draft.single

def ofDraft : Decoder Draft (Pose Float32) :=
  fields.ofDraft "Pose"

end Pose

namespace Robot

def toJson (robot : Robot Float32) : Json :=
  .obj
    [("x", .single robot.x), ("y", .single robot.y), ("rotation", .single robot.rotation),
      ("heading", .single robot.heading), ("drive_velocity", .single robot.driveVelocity),
      ("turn_velocity", .single robot.turnVelocity)]

def fields : Fields Draft (Robot Float32) :=
  Robot.mk <$> .required "x" Draft.single <*> .required "y" Draft.single
    <*> .required "rotation" Draft.single <*> .required "heading" Draft.single
    <*> .required "drive_velocity" Draft.single <*> .required "turn_velocity" Draft.single

def ofDraft : Decoder Draft (Robot Float32) :=
  fields.ofDraft "RobotState"

end Robot

end ReefRover
