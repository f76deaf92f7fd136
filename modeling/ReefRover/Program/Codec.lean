import ReefRover.Json.Fields
import ReefRover.Program.Names

/-!
This module contains the JSON form of programs and expressions. A block is an object tagged by `op`
and an expression is one tagged by `kind`.
-/

namespace ReefRover

open Json (Fields Variant Decoder)

namespace Json

def singleField : Decoder Json Float32 :=
  scalar Shape.single

end Json

namespace Expr

def toJson : Expr Float32 → Json
  | boolean value => .obj [("kind", .str "boolean"), ("value", .bool value)]
  | number value => .obj [("kind", .str "number"), ("value", .single value)]
  | not operand => .obj [("kind", .str "not"), ("operand", operand.toJson)]
  | compare op lhs rhs =>
    .obj [("kind", .str "compare"), ("op", .str op.name), ("lhs", lhs.toJson), ("rhs", rhs.toJson)]
  | logic op lhs rhs =>
    .obj [("kind", .str "logic"), ("op", .str op.name), ("lhs", lhs.toJson), ("rhs", rhs.toJson)]
  | sensor s => .obj [("kind", .str "sensor"), ("sensor", .str s.name)]

def tagged (operand : Decoder Json (Expr Float32)) : Json.Tagged (Expr Float32) :=
  { tag := "kind"
    typeName := "Expr"
    variants :=
      [("boolean", boolean <$> Fields.required "value" (Json.scalar Json.Shape.boolean)),
        ("number", number <$> Fields.required "value" Json.singleField),
        ("not", not <$> Fields.required "operand" operand),
        ("compare",
          compare <$> Fields.required "op" CompareOp.choice.ofField <*> .required "lhs" operand
            <*> .required "rhs" operand),
        ("logic",
          logic <$> Fields.required "op" LogicOp.choice.ofField <*> .required "lhs" operand
            <*> .required "rhs" operand),
        ("sensor", sensor <$> Fields.required "sensor" Sensor.choice.ofField)] }

def ofJson : (depth : Nat) → Decoder Json (Expr Float32)
  | 0, _ => .error .notJson
  | depth + 1, j => (tagged (ofJson depth)).ofJson j

def ofDraft : Decoder Json.Draft (Expr Float32) :=
  (tagged (ofJson Json.bracketLimit)).ofDraft Json.bracketLimit

def ofText : Decoder String (Expr Float32) :=
  Json.decode ofDraft

end Expr

namespace Action

def members : Action Float32 → List (String × Json)
  | drive direction distance unit =>
    [("direction", .str direction.name), ("distance", .optional .single distance),
      ("unit", .optional (fun u => .str (DistanceUnit.name u)) unit)]
  | turn direction degrees =>
    [("direction", .str direction.name), ("degrees", .optional .single degrees)]
  | turnToHeading heading | setDriveHeading heading => [("heading", .optional .single heading)]
  | turnToRotation rotation | setDriveRotation rotation =>
    [("rotation", .optional .single rotation)]
  | setDriveVelocity velocity | setTurnVelocity velocity =>
    [("velocity", .optional .single velocity)]
  | setDriveTimeout seconds | wait seconds => [("seconds", .optional .single seconds)]
  | pen action color => [("action", .str action.name), ("color", .optional .str color)]
  | magnet action => [("action", .str action.name)]
  | print text => [("text", .str text)]
  | stopDriving | clearConsole => []

end Action

namespace Op

mutual

def toJson : Op Float32 → Json
  | action a => .obj (("op", .str a.name) :: a.members)
  | waitUntil condition => .obj [("op", .str "waitUntil"), ("condition", condition.toJson)]
  | repeatTimes times body =>
    .obj [("op", .str "repeatTimes"), ("times", .optional .single times),
      ("body", .arr (bodyToJson body))]
  | forever body => .obj [("op", .str "forever"), ("body", .arr (bodyToJson body))]
  | repeatUntil condition body =>
    .obj [("op", .str "repeatUntil"), ("condition", condition.toJson),
      ("body", .arr (bodyToJson body))]
  | whileDo condition body =>
    .obj [("op", .str "while"), ("condition", condition.toJson), ("body", .arr (bodyToJson body))]
  | ifThen condition yes =>
    .obj [("op", .str "ifThen"), ("condition", condition.toJson), ("then", .arr (bodyToJson yes))]
  | ifThenElse condition yes otherwise =>
    .obj [("op", .str "ifThenElse"), ("condition", condition.toJson),
      ("then", .arr (bodyToJson yes)), ("otherwise", .arr (bodyToJson otherwise))]
  | ifElseIfElse condition yes elseIfCondition elseIf otherwise =>
    .obj [("op", .str "ifElseIfElse"), ("condition", condition.toJson),
      ("then", .arr (bodyToJson yes)), ("elseIfCondition", elseIfCondition.toJson),
      ("elseIf", .arr (bodyToJson elseIf)), ("otherwise", .arr (bodyToJson otherwise))]
  | breakLoop => .obj [("op", .str "break")]
  | stopProject => .obj [("op", .str "stopProject")]

def bodyToJson : List (Op Float32) → List Json
  | [] => []
  | op :: ops => op.toJson :: bodyToJson ops

end

def numberField (name : String) : Variant (Option Float32) :=
  .optional name (Json.nullable Json.singleField)

def tagged (expr : Decoder Json (Expr Float32)) (body : Decoder Json (List (Op Float32))) :
    Json.Tagged (Op Float32) :=
  { tag := "op"
    typeName := "Op"
    variants :=
      [("drive",
          (fun direction distance unit => action (.drive direction distance unit))
            <$> Fields.required "direction" DriveDirection.choice.ofField <*> numberField "distance"
            <*> .optional "unit" (Json.nullable DistanceUnit.choice.ofField)),
        ("turn",
          (fun direction degrees => action (.turn direction degrees))
            <$> Fields.required "direction" TurnDirection.choice.ofField <*> numberField "degrees"),
        ("turnToHeading", (fun v => action (.turnToHeading v)) <$> numberField "heading"),
        ("turnToRotation", (fun v => action (.turnToRotation v)) <$> numberField "rotation"),
        ("stopDriving", pure (action .stopDriving)),
        ("setDriveVelocity", (fun v => action (.setDriveVelocity v)) <$> numberField "velocity"),
        ("setTurnVelocity", (fun v => action (.setTurnVelocity v)) <$> numberField "velocity"),
        ("setDriveHeading", (fun v => action (.setDriveHeading v)) <$> numberField "heading"),
        ("setDriveRotation", (fun v => action (.setDriveRotation v)) <$> numberField "rotation"),
        ("setDriveTimeout", (fun v => action (.setDriveTimeout v)) <$> numberField "seconds"),
        ("wait", (fun v => action (.wait v)) <$> numberField "seconds"),
        ("waitUntil", waitUntil <$> Fields.required "condition" expr),
        ("repeatTimes", repeatTimes <$> numberField "times" <*> .required "body" body),
        ("forever", forever <$> Fields.required "body" body),
        ("repeatUntil", repeatUntil <$> Fields.required "condition" expr <*> .required "body" body),
        ("while", whileDo <$> Fields.required "condition" expr <*> .required "body" body),
        ("ifThen", ifThen <$> Fields.required "condition" expr <*> .required "then" body),
        ("ifThenElse",
          ifThenElse <$> Fields.required "condition" expr <*> .required "then" body
            <*> .required "otherwise" body),
        ("ifElseIfElse",
          ifElseIfElse <$> Fields.required "condition" expr <*> .required "then" body
            <*> .required "elseIfCondition" expr <*> .required "elseIf" body
            <*> .required "otherwise" body),
        ("break", pure breakLoop),
        ("stopProject", pure stopProject),
        ("pen",
          (fun pen color => action (.pen pen color))
            <$> Fields.required "action" PenAction.choice.ofField
            <*> .optional "color" (Json.nullable (Json.scalar Json.Shape.text))),
        ("magnet",
          (fun v => action (.magnet v)) <$> Fields.required "action" MagnetAction.choice.ofField),
        ("print",
          (fun v => action (.print v)) <$> Fields.required "text" (Json.scalar Json.Shape.text)),
        ("clearConsole", pure (action .clearConsole))] }

def ofJson : (depth : Nat) → Decoder Json (Op Float32)
  | 0, _ => .error .notJson
  | depth + 1, j => (tagged (Expr.ofJson depth) (Json.list (ofJson depth))).ofJson j

def ofDraft (room : Nat) : Decoder Json.Draft (Op Float32) :=
  (tagged (Expr.ofJson Json.bracketLimit) (Json.list (ofJson Json.bracketLimit))).ofDraft room

def ofText : Decoder String (Op Float32) :=
  Json.decode (ofDraft Json.bracketLimit)

end Op

namespace Program

def toJson (program : Program Float32) : Json :=
  .arr (Op.bodyToJson program)

def toText (program : Program Float32) : String :=
  (toJson program).render

def ofText : Decoder String (Program Float32) :=
  Json.decode (Json.Draft.list (Op.ofDraft (Json.bracketLimit - 1)))

end Program

end ReefRover
