import ReefRover.Json.Basic
import ReefRover.Machine.Basic
import ReefRover.Text.Quoted

/-!
This module contains how failures of programs are reported: as a sentence, as JSON, and as a
constructor with its arguments.
-/

namespace ReefRover

namespace EvalError

def toJson : EvalError → Json
  | typeMismatch op lhs rhs =>
    .obj
      [("TypeMismatch",
        .obj [("op", .str op), ("lhs", .str lhs.name), ("rhs", .str rhs.name)])]
  | expectedBoolean found => .obj [("ExpectedBoolean", .obj [("found", .str found.name)])]
  | nonFinite => .str "NonFinite"

def describe : EvalError → String
  | typeMismatch op lhs rhs =>
    "TypeMismatch \x7b op: " ++ Text.quoted op ++ ", lhs: " ++ Text.quoted lhs.name ++ ", rhs: "
      ++ Text.quoted rhs.name ++ " \x7d"
  | expectedBoolean found => "ExpectedBoolean \x7b found: " ++ Text.quoted found.name ++ " \x7d"
  | nonFinite => "NonFinite"

end EvalError

def numberText (x : Float32) : String :=
  match Numeral.ofSingle? x with
  | some literal => literal.toString
  | none => if x.isNaN then "NaN" else if x < 0 then "-inf" else "inf"

namespace ExecutionError

def message : ExecutionError Float32 → String
  | condition op source => "`" ++ op ++ "`: bad condition: " ++ source.message
  | nonFinite op field value =>
    "`" ++ op ++ "`: " ++ field ++ " must be a finite number, got " ++ numberText value
  | breakOutsideLoop => "`break` used outside of a loop"
  | motionInFlight op => "`" ++ op ++ "` started while another motion was still in flight"
  | malformed reason => "malformed program: " ++ reason

def toJson : ExecutionError Float32 → Json
  | condition op source =>
    .obj [("kind", .str "condition"), ("op", .str op), ("source", source.toJson)]
  | nonFinite op field value =>
    .obj
      [("kind", .str "nonFinite"), ("op", .str op), ("field", .str field),
        ("value", .single value)]
  | breakOutsideLoop => .obj [("kind", .str "breakOutsideLoop")]
  | motionInFlight op => .obj [("kind", .str "motionInFlight"), ("op", .str op)]
  | malformed reason => .obj [("kind", .str "malformed"), ("reason", .str reason)]

def describe : ExecutionError Float32 → String
  | condition op source =>
    "Condition \x7b op: " ++ Text.quoted op ++ ", source: " ++ source.describe ++ " \x7d"
  | nonFinite op field value =>
    "NonFinite \x7b op: " ++ Text.quoted op ++ ", field: " ++ Text.quoted field ++ ", value: "
      ++ numberText value ++ " \x7d"
  | breakOutsideLoop => "BreakOutsideLoop"
  | motionInFlight op => "MotionInFlight \x7b op: " ++ Text.quoted op ++ " \x7d"
  | malformed reason => "Malformed \x7b reason: " ++ Text.quoted reason ++ " \x7d"

end ExecutionError

end ReefRover
