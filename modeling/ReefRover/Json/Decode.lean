import ReefRover.Json.Draft
import ReefRover.Text.Quoted

/-!
This module contains the decoding of numbers, texts, choices and lists from JSON, and the errors of
decoding.
-/

namespace ReefRover

namespace Json

inductive Shape where
  | null
  | bool (value : Bool)
  | number (n : Numeral.Number)
  | str (text : String)
  | sequence
  | map

namespace Shape

def describe : Shape → String
  | null => "null"
  | bool value => if value then "boolean `true`" else "boolean `false`"
  | number (.unsigned n) => "integer `" ++ toString n ++ "`"
  | number (.negative n) => "integer `-" ++ toString n ++ "`"
  | number (.double x) =>
    "floating point `" ++ ((Numeral.ofDouble? x).map Numeral.toString).getD "" ++ "`"
  | str text => "string " ++ Text.quoted text
  | sequence => "sequence"
  | map => "map"

end Shape

inductive DecodeError where
  /-- The text stops being JSON, or leaves the bounds set for it. -/
  | notJson
  | missingField (field : String)
  | duplicateField (field : String)
  | unknownVariant (variant : String) (expected : List String)
  | invalidType (found : Shape) (expected : String)
  | invalidValue (found : Shape) (expected : String)
  | invalidLength (length : Nat) (expected : String)

namespace DecodeError

/-- The choices of a message: `a`, or `a` or `b`, or one of all. -/
def choices (names : List String) : String :=
  let quoted := names.map fun name => "`" ++ name ++ "`"
  match quoted with
  | [a] => a
  | [a, b] => a ++ " or " ++ b
  | _ => "one of " ++ ", ".intercalate quoted

def message : DecodeError → String
  | notJson => "<syntax>"
  | missingField field => s!"missing field `{field}`"
  | duplicateField field => s!"duplicate field `{field}`"
  | unknownVariant variant expected =>
    "unknown variant `" ++ variant ++ "`, expected " ++ choices expected
  | invalidType found expected => "invalid type: " ++ found.describe ++ ", expected " ++ expected
  | invalidValue found expected => "invalid value: " ++ found.describe ++ ", expected " ++ expected
  | invalidLength length expected => s!"invalid length {length}, expected {expected}"

end DecodeError

abbrev Decoder (σ α : Type) := σ → Except DecodeError α

/-- The number of brackets that a text may open within each other. -/
def bracketLimit : Nat := 127

def shape : Decoder Json Shape
  | .null => .ok .null
  | .bool value => .ok (.bool value)
  | .num literal =>
    match literal.number? with
    | some n => .ok (.number n)
    | none => .error .notJson
  | .str text => .ok (.str text)
  | .arr _ => .ok .sequence
  | .obj _ => .ok .map

def Draft.shape : Decoder Draft Shape
  | .null => .ok .null
  | .bool value => .ok (.bool value)
  | .num literal =>
    match literal.number? with
    | some n => .ok (.number n)
    | none => .error .notJson
  | .str text => .ok (.str text)
  | .arr _ => .ok .sequence
  | .obj _ => .ok .map
  | .unpaired | .broken => .error .notJson

namespace Shape

/-- A number in single precision. Whole numbers are rounded once, all others by way of a double. -/
def single : Decoder Shape Float32
  | .number (.unsigned n) => .ok n.toFloat32
  | .number (.negative n) => .ok (-n.toFloat32)
  | .number (.double x) => .ok (narrow x)
  | s => .error (.invalidType s "f32")

def whole (limit : Nat) (expected : String) : Decoder Shape Nat
  | .number (.unsigned n) =>
    if n.toNat < limit then .ok n.toNat
    else .error (.invalidValue (.number (.unsigned n)) expected)
  | .number (.negative n) => .error (.invalidValue (.number (.negative n)) expected)
  | s => .error (.invalidType s expected)

def word32 : Decoder Shape UInt32 := fun s =>
  return (← whole (Nat.pow 2 32) "u32" s).toUInt32

def word64 : Decoder Shape UInt64 := fun s =>
  return (← whole (Nat.pow 2 64) "u64" s).toUInt64

def size : Decoder Shape Nat :=
  whole (Nat.pow 2 64) "usize"

def boolean : Decoder Shape Bool
  | .bool value => .ok value
  | s => .error (.invalidType s "a boolean")

def text : Decoder Shape String
  | .str text => .ok text
  | s => .error (.invalidType s "a string")

end Shape

def scalar {α : Type} (decode : Decoder Shape α) : Decoder Json α := fun j => do
  decode (← j.shape)

def Draft.scalar {α : Type} (decode : Decoder Shape α) : Decoder Draft α := fun d => do
  decode (← d.shape)

def nullable {α : Type} (decode : Decoder Json α) : Decoder Json (Option α)
  | .null => .ok none
  | j => return some (← decode j)

def Draft.nullable {α : Type} (decode : Decoder Draft α) : Decoder Draft (Option α)
  | .null => .ok none
  | d => return some (← decode d)

def list {α : Type} (decode : Decoder Json α) : Decoder Json (List α)
  | .arr items => items.mapM decode
  | j => do throw (.invalidType (← j.shape) "a sequence")

def Draft.list {α : Type} (decode : Decoder Draft α) : Decoder Draft (List α)
  | .arr items => items.mapM decode
  | d => do throw (.invalidType (← d.shape) "a sequence")

abbrev Choice (α : Type) := List (String × α)

namespace Choice

variable {α : Type}

def ofNames (name : α → String) (values : List α) : Choice α :=
  values.map fun a => (name a, a)

def select (choice : Choice α) (name : String) : Except DecodeError α :=
  match choice.lookup name with
  | some a => .ok a
  | none => .error (.unknownVariant name (choice.map Prod.fst))

/--
A value is given by its name, or by an object whose one member has that name and nothing as its
content.
-/
def ofJsonWith (isNothing : Json → Bool) (choice : Choice α) : Decoder Json α
  | .str name => choice.select name
  | .obj [(name, content)] => do
    let a ← choice.select name
    if isNothing content then return a else throw (.invalidType (← content.shape) "unit")
  | .obj _ => .error (.invalidValue .map "map with a single key")
  | j => do throw (.invalidType (← j.shape) "string or map")

def ofJson (choice : Choice α) : Decoder Json α :=
  choice.ofJsonWith fun
    | .null => true
    | _ => false

/-- A field of a tagged object, for which an empty object is nothing as well. -/
def ofField (choice : Choice α) : Decoder Json α :=
  choice.ofJsonWith fun
    | .null | .obj [] => true
    | _ => false

/-- As `ofJson`, in the order of the text. Other forms are not looked into. -/
def ofDraft (choice : Choice α) : Decoder Draft α
  | .str name => choice.select name
  | .obj ((key, content) :: later) => do
    let a ←
      match key with
      | .str name => choice.select name
      | _ => throw .notJson
    match content with
    | .null => if later.isEmpty then return a else throw .notJson
    | content => throw (.invalidType (← content.shape) "unit")
  | _ => .error .notJson

end Choice

def decode {α : Type} (decoder : Decoder Draft α) : Decoder String α := fun text => do
  let reading := read text
  let a ← decoder reading.root
  if reading.trailing then throw .notJson
  return a

end Json

end ReefRover
