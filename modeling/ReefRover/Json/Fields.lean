import ReefRover.Json.Decode

/-!
This module contains the decoding of records. A record may be written as an object, whose members
stand in any order, or as an array of its fields in the order of their declaration. Of several
faults the first in the text is reported; only where there is none, the first field that is
missing.
-/

namespace ReefRover

namespace Json

inductive Found (α : Type) where
  | value (a : α)
  /-- The earliest fault, and the position of its member. -/
  | fault (position : Nat) (e : DecodeError)
  | missing (field : String)

namespace Found

variable {α β : Type}

def map (f : α → β) : Found α → Found β
  | value a => value (f a)
  | fault i e => fault i e
  | missing field => missing field

def seq : Found (α → β) → Found α → Found β
  | fault i e, fault j e' => if j < i then fault j e' else fault i e
  | fault i e, _ => fault i e
  | _, fault j e => fault j e
  | missing field, _ => missing field
  | _, missing field => missing field
  | value f, value a => value (f a)

def toExcept : Found α → Except DecodeError α
  | value a => .ok a
  | fault _ e => .error e
  | missing field => .error (.missingField field)

end Found

structure Fields (σ α : Type) where
  names : List String
  named : List (String × σ) → Found α
  /--
  Decodes the fields from values in order. Takes what to report as expected where there are too
  few, and the number of fields before these; gives the values that are left over.
  -/
  placed : String → Nat → List σ → Except DecodeError (α × List σ)

namespace Fields

variable {σ α β : Type}

instance : Applicative (Fields σ) where
  pure a :=
    { names := []
      named := fun _ => .value a
      placed := fun _ _ values => .ok (a, values) }
  seq f x :=
    let x := x ()
    { names := f.names ++ x.names
      named := fun members => (f.named members).seq (x.named members)
      placed := fun expected before values => do
        let (g, values) ← f.placed expected before values
        let (a, values) ← x.placed expected (before + f.names.length) values
        return (g a, values) }

def occurrences (name : String) (members : List (String × σ)) : List ((String × σ) × Nat) :=
  members.zipIdx.filter fun m => m.1.1 == name

def single (name : String) (decode : Decoder σ α) (absent : Found α)
    (members : List (String × σ)) : Found α :=
  match occurrences name members with
  | [] => absent
  | ((_, v), i) :: later =>
    match decode v, later with
    | .error e, _ => .fault i e
    | .ok a, [] => .value a
    | .ok _, (_, j) :: _ => .fault j (.duplicateField name)

def required (name : String) (decode : Decoder σ α) : Fields σ α :=
  { names := [name]
    named := single name decode (.missing name)
    placed := fun expected before values =>
      match values with
      | [] => .error (.invalidLength before expected)
      | v :: values => return (← decode v, values) }

def optional (name : String) (decode : Decoder σ (Option α)) : Fields σ (Option α) :=
  { names := [name]
    named := single name decode (.value none)
    placed := fun _ _ values =>
      match values with
      | [] => .ok (none, [])
      | v :: values => return (← decode v, values) }

def elements (n : Nat) : String :=
  if n = 1 then "1 element" else s!"{n} elements"

def readable : List (Draft × Draft) → List (String × Draft)
  | (.str key, v) :: members => (key, v) :: readable members
  | _ => []

/--
The first member of an object that spoils it whatever the fields are: one whose key is no string,
or one that is no field and not read to its end.
-/
def spoiled? (names : List String) (members : List (Draft × Draft)) : Option Nat :=
  members.findIdx? fun (key, v) =>
    match key with
    | .str key => !names.contains key && !v.intact
    | _ => true

/-- Decodes a record from a text as it is read. Members that are no fields are passed over. -/
def ofDraft (fields : Fields Draft α) (name : String) : Decoder Draft α
  | .obj members =>
    let found := fields.named (readable members)
    match spoiled? fields.names members, found with
    | some i, .fault j e => if j < i then .error e else .error .notJson
    | some _, _ => .error .notJson
    | none, found => found.toExcept
  | .arr items => do
    let expected := "struct " ++ name ++ " with " ++ elements fields.names.length
    let (a, later) ← fields.placed expected 0 items
    if later.isEmpty then return a else throw .notJson
  | d => do throw (.invalidType (← d.shape) ("struct " ++ name))

end Fields

abbrev Variant (α : Type) := Fields Json α

structure Tagged (α : Type) where
  tag : String
  typeName : String
  variants : Choice (Variant α)

namespace Tagged

variable {α : Type}

def select (t : Tagged α) (name : String) : Except DecodeError (String × Variant α) :=
  return (name, ← t.variants.select name)

def selectDraft (t : Tagged α) : Decoder Draft (String × Variant α)
  | .str name => t.select name
  | d => do throw (.invalidType (← d.shape) "variant identifier")

/-- The variant that a tag names by its name or by its number. -/
def selectJson (t : Tagged α) (j : Json) : Except DecodeError (String × Variant α) := do
  match ← j.shape with
  | .str name => t.select name
  | .number (.unsigned n) =>
    match t.variants[n.toNat]? with
    | some variant => return variant
    | none =>
      let count := t.variants.length
      throw (.invalidValue (.number (.unsigned n)) s!"variant index 0 <= i < {count}")
  | s => throw (.invalidType s "variant identifier")

def ofMembers (variant : String × Variant α) (members : List (String × Json)) :
    Except DecodeError α :=
  (variant.2.named members).toExcept

def ofItems (t : Tagged α) (variant : String × Variant α) (items : List Json) :
    Except DecodeError α := do
  let (name, fields) := variant
  let count := fields.names.length
  let expected :=
    "struct variant " ++ t.typeName ++ "::" ++ name.capitalize ++ " with " ++ Fields.elements count
  let (a, later) ← fields.placed expected 0 items
  if later.isEmpty then
    return a
  else
    throw (.invalidLength items.length (Fields.elements count ++ " in sequence"))

def gather (t : Tagged α) (found : Option (String × Variant α)) (others : List (String × Json)) :
    List (String × Json) → Except DecodeError ((String × Variant α) × List (String × Json))
  | [] =>
    match found with
    | some variant => .ok (variant, others.reverse)
    | none => .error (.missingField t.tag)
  | (key, v) :: members => do
    if key = t.tag then
      if found.isSome then throw (.duplicateField t.tag)
      t.gather (some (← t.selectJson v)) others members
    else
      t.gather found ((key, v) :: others) members

/--
As `gather`, while the text is being read: the tag is looked at when it is met, and all other
members have to be complete before any of them is looked at.
-/
def gatherDraft (t : Tagged α) (room : Nat) (found : Option (String × Variant α))
    (others : List (String × Json)) :
    List (Draft × Draft) → Except DecodeError ((String × Variant α) × List (String × Json))
  | [] =>
    match found with
    | some variant => .ok (variant, others.reverse)
    | none => .error (.missingField t.tag)
  | (.str key, v) :: members => do
    if key = t.tag then
      if found.isSome then throw (.duplicateField t.tag)
      t.gatherDraft room (some (← t.selectDraft v)) others members
    else
      match v.complete? room with
      | some j => t.gatherDraft room found ((key, j) :: others) members
      | none => throw .notJson
  | _ :: _ => .error .notJson

def ofJson (t : Tagged α) : Decoder Json α
  | .obj members => do
    let (variant, others) ← t.gather none [] members
    ofMembers variant others
  | .arr [] => .error (.missingField t.tag)
  | .arr (tag :: items) => do
    t.ofItems (← t.selectJson tag) items
  | j => do throw (.invalidType (← j.shape) ("internally tagged enum " ++ t.typeName))

def ofDraft (t : Tagged α) (room : Nat) : Decoder Draft α
  | .obj members => do
    if room = 0 then throw .notJson
    let (variant, others) ← t.gatherDraft (room - 1) none [] members
    ofMembers variant others
  | .arr items => do
    if room = 0 then throw .notJson
    match items with
    | [] => throw (.missingField t.tag)
    | tag :: items =>
      let variant ← t.selectDraft tag
      match Draft.completeItems? (room - 1) items with
      | some items => t.ofItems variant items
      | none => throw .notJson
  | d => do throw (.invalidType (← d.shape) ("internally tagged enum " ++ t.typeName))

end Tagged

end Json

end ReefRover
