import ReefRover.Decimal.Numeral

/-!
This module contains JSON values and how they are written, on one line or over several. Members of
an object keep their order.
-/

namespace ReefRover

inductive Json where
  | null
  | bool (value : Bool)
  | num (literal : Numeral)
  | str (text : String)
  | arr (items : List Json)
  | obj (members : List (String × Json))

namespace Json

def nat (n : Nat) : Json :=
  .num (.ofNat n)

/-- A number in single precision; infinities and undefined numbers are `null`. -/
def single (x : Float32) : Json :=
  match Numeral.ofSingle? x with
  | some literal => .num literal
  | none => .null

def optional {α : Type} (encode : α → Json) : Option α → Json
  | some a => encode a
  | none => .null

def escapeChar (c : Char) : List Char :=
  match c with
  | '"' => ['\\', '"']
  | '\\' => ['\\', '\\']
  | '\n' => ['\\', 'n']
  | '\r' => ['\\', 'r']
  | '\t' => ['\\', 't']
  | '\x08' => ['\\', 'b']
  | '\x0c' => ['\\', 'f']
  | c =>
    if c.toNat < 0x20 then
      ['\\', 'u', '0', '0', Nat.digitChar (c.toNat / 16), Nat.digitChar (c.toNat % 16)]
    else
      [c]

def stringChars (text : String) : List Char :=
  '"' :: text.toList.flatMap escapeChar ++ ['"']

mutual

def toChars : Json → List Char
  | .null => "null".toList
  | .bool value => (if value then "true" else "false").toList
  | .num literal => literal.toChars
  | .str text => stringChars text
  | .arr [] => "[]".toList
  | .arr (item :: items) => '[' :: (item.toChars ++ itemsToChars items)
  | .obj [] => "\x7b\x7d".toList
  | .obj ((key, value) :: members) =>
    '\x7b' :: (stringChars key ++ ':' :: (value.toChars ++ membersToChars members))

/-- The items after the first and the closing bracket. -/
def itemsToChars : List Json → List Char
  | [] => [']']
  | item :: items => ',' :: (item.toChars ++ itemsToChars items)

/-- The members after the first and the closing brace. -/
def membersToChars : List (String × Json) → List Char
  | [] => ['\x7d']
  | (key, value) :: members =>
    ',' :: (stringChars key ++ ':' :: (value.toChars ++ membersToChars members))

end

def render (j : Json) : String :=
  String.ofList j.toChars

def newLine (level : Nat) : List Char :=
  '\n' :: List.replicate (2 * level) ' '

mutual

def toPrettyChars (level : Nat) : Json → List Char
  | .null => "null".toList
  | .bool value => (if value then "true" else "false").toList
  | .num literal => literal.toChars
  | .str text => stringChars text
  | .arr [] => "[]".toList
  | .arr (item :: items) =>
    '[' :: (newLine (level + 1) ++ (item.toPrettyChars (level + 1) ++ prettyItems level items))
  | .obj [] => "\x7b\x7d".toList
  | .obj ((key, value) :: members) =>
    '\x7b' :: (newLine (level + 1) ++ (stringChars key ++
      ':' :: ' ' :: (value.toPrettyChars (level + 1) ++ prettyMembers level members)))

def prettyItems (level : Nat) : List Json → List Char
  | [] => newLine level ++ [']']
  | item :: items =>
    ',' :: (newLine (level + 1) ++ (item.toPrettyChars (level + 1) ++ prettyItems level items))

def prettyMembers (level : Nat) : List (String × Json) → List Char
  | [] => newLine level ++ ['\x7d']
  | (key, value) :: members =>
    ',' :: (newLine (level + 1) ++ (stringChars key ++
      ':' :: ' ' :: (value.toPrettyChars (level + 1) ++ prettyMembers level members)))

end

def renderPretty (j : Json) : String :=
  String.ofList (j.toPrettyChars 0)

end Json

end ReefRover
