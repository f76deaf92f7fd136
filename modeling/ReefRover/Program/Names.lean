import ReefRover.Json.Decode
import ReefRover.Program.Op

/-!
This module contains the names by which programs choose between values, such as the direction of a
drive.
-/

namespace ReefRover

open Json (Choice)

namespace CompareOp

def name : CompareOp → String
  | eq => "eq"
  | neq => "neq"
  | lt => "lt"
  | lte => "lte"
  | gt => "gt"
  | gte => "gte"

def choice : Choice CompareOp :=
  .ofNames name [eq, neq, lt, lte, gt, gte]

end CompareOp

namespace LogicOp

def name : LogicOp → String
  | and => "and"
  | or => "or"

def choice : Choice LogicOp :=
  .ofNames name [and, or]

end LogicOp

namespace Sensor

def name : Sensor → String
  | leftBumperPressed => "leftBumperPressed"
  | rightBumperPressed => "rightBumperPressed"
  | distanceFound => "distanceFound"
  | distanceMm => "distanceMm"
  | eyeNearObject => "eyeNearObject"
  | eyeDetectsColor => "eyeDetectsColor"
  | positionX => "positionX"
  | positionY => "positionY"
  | driveRotation => "driveRotation"
  | driveHeading => "driveHeading"
  | timerSeconds => "timerSeconds"

def choice : Choice Sensor :=
  .ofNames name
    [leftBumperPressed, rightBumperPressed, distanceFound, distanceMm, eyeNearObject,
      eyeDetectsColor, positionX, positionY, driveRotation, driveHeading, timerSeconds]

end Sensor

namespace DriveDirection

def name : DriveDirection → String
  | forward => "forward"
  | reverse => "reverse"

def choice : Choice DriveDirection :=
  .ofNames name [forward, reverse]

end DriveDirection

namespace TurnDirection

def name : TurnDirection → String
  | left => "left"
  | right => "right"

def choice : Choice TurnDirection :=
  .ofNames name [left, right]

end TurnDirection

namespace DistanceUnit

def name : DistanceUnit → String
  | mm => "mm"
  | inches => "inches"

def choice : Choice DistanceUnit :=
  .ofNames name [mm, inches]

end DistanceUnit

namespace PenAction

def name : PenAction → String
  | down => "down"
  | up => "up"
  | setColor => "setColor"

def choice : Choice PenAction :=
  .ofNames name [down, up, setColor]

end PenAction

namespace MagnetAction

def name : MagnetAction → String
  | boost => "boost"
  | drop => "drop"

def choice : Choice MagnetAction :=
  .ofNames name [boost, drop]

end MagnetAction

end ReefRover
