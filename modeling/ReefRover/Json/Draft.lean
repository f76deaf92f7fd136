import ReefRover.Json.Basic
import ReefRover.Json.Token

/-!
This module contains drafts: what can be read of a text that may stop being JSON somewhere. Values
are decoded from drafts in the order of the text, so a fault of the data that comes first is found
first. A draft without gaps is a JSON value.
-/

namespace ReefRover

namespace Json

/-- What was read of a value. The key of a member is a string, read or not, or a gap. -/
inductive Draft where
  | null
  | bool (value : Bool)
  | num (literal : Numeral)
  | str (text : String)
  | unpaired
  | arr (items : List Draft)
  | obj (members : List (Draft × Draft))
  | broken

inductive Open where
  | arr (items : List Draft)
  | member (members : List (Draft × Draft)) (key : Draft)

/-- A text being read. Items and members are collected in reverse. -/
inductive Reader where
  | wantValue (stack : List Open)
  | wantFirstItem (stack : List Open)
  | wantFirstKey (stack : List Open)
  | wantKey (members : List (Draft × Draft)) (stack : List Open)
  | wantColon (members : List (Draft × Draft)) (key : Draft) (stack : List Open)
  | afterItem (items : List Draft) (stack : List Open)
  | afterMember (members : List (Draft × Draft)) (stack : List Open)
  | done (root : Draft) (trailing : Bool)
  | stopped (root : Draft)

namespace Reader

def close (last : Draft) : List Open → Draft
  | [] => last
  | .arr items :: stack => close (.arr (last :: items).reverse) stack
  | .member members key :: stack => close (.obj ((key, last) :: members).reverse) stack

def put (v : Draft) : List Open → Reader
  | [] => .done v false
  | .arr items :: stack => .afterItem (v :: items) stack
  | .member members key :: stack => .afterMember ((key, v) :: members) stack

def scalar? : Token → Option Draft
  | .null => some .null
  | .bool value => some (.bool value)
  | .num literal => some (.num literal)
  | .str text => some (.str text)
  | .unpaired => some .unpaired
  | _ => none

def begin (stack : List Open) (token : Token) : Reader :=
  match token with
  | .openArr => .wantFirstItem stack
  | .openObj => .wantFirstKey stack
  | token =>
    match scalar? token with
    | some v => put v stack
    | none => .stopped (close .broken stack)

def beginKey (members : List (Draft × Draft)) (stack : List Open) : Token → Reader
  | .str text => .wantColon members (.str text) stack
  | .unpaired => .wantColon members .unpaired stack
  | _ => .stopped (close (.obj ((.broken, .broken) :: members).reverse) stack)

def cut : Reader → Draft
  | .wantValue stack => close .broken stack
  | .wantFirstItem stack => close (.arr [.broken]) stack
  | .wantFirstKey stack => close (.obj [(.broken, .broken)]) stack
  | .wantKey members stack | .afterMember members stack =>
    close (.obj ((.broken, .broken) :: members).reverse) stack
  | .wantColon members key stack => close (.obj ((key, .broken) :: members).reverse) stack
  | .afterItem items stack => close (.arr (.broken :: items).reverse) stack
  | .done root _ | .stopped root => root

def push (r : Reader) (token : Token) : Reader :=
  match r, token with
  | .wantValue stack, token => begin stack token
  | .wantFirstItem stack, .closeArr => put (.arr []) stack
  | .wantFirstItem stack, token => begin (.arr [] :: stack) token
  | .wantFirstKey stack, .closeObj => put (.obj []) stack
  | .wantFirstKey stack, token => beginKey [] stack token
  | .wantKey members stack, token => beginKey members stack token
  | .wantColon members key stack, .colon => .wantValue (.member members key :: stack)
  | .afterItem items stack, .comma => .wantValue (.arr items :: stack)
  | .afterItem items stack, .closeArr => put (.arr items.reverse) stack
  | .afterMember members stack, .comma => .wantKey members stack
  | .afterMember members stack, .closeObj => put (.obj members.reverse) stack
  | .done root _, _ => .done root true
  | .stopped root, _ => .stopped root
  | r, _ => .stopped r.cut

end Reader

structure Reading where
  root : Draft
  trailing : Bool

def read (text : String) : Reading :=
  match (lex text.toList).foldl Reader.push (.wantValue []) with
  | .done root trailing => { root, trailing }
  | r => { root := r.cut, trailing := false }

namespace Draft

mutual

/-- Whether a value is read to its end. Nothing is asked of its strings and numbers. -/
def intact : Draft → Bool
  | .null | .bool _ | .num _ | .str _ | .unpaired => true
  | .arr items => itemsIntact items
  | .obj members => membersIntact members
  | .broken => false

def itemsIntact : List Draft → Bool
  | [] => true
  | item :: items => item.intact && itemsIntact items

def membersIntact : List (Draft × Draft) → Bool
  | [] => true
  | (key, value) :: members => key.intact && value.intact && membersIntact members

end

mutual

/--
The value that a draft is, if it has no gaps, its strings and numbers can be read, and it opens at
most `room` brackets within each other.
-/
def complete? (room : Nat) : Draft → Option Json
  | .null => some .null
  | .bool value => some (.bool value)
  | .num literal => if literal.number?.isSome then some (.num literal) else none
  | .str text => some (.str text)
  | .unpaired => none
  | .arr items => if room = 0 then none else (completeItems? (room - 1) items).map .arr
  | .obj members => if room = 0 then none else (completeMembers? (room - 1) members).map .obj
  | .broken => none

def completeItems? (room : Nat) : List Draft → Option (List Json)
  | [] => some []
  | item :: items => do
    let item ← item.complete? room
    return item :: (← completeItems? room items)

def completeMembers? (room : Nat) : List (Draft × Draft) → Option (List (String × Json))
  | [] => some []
  | (.str key, value) :: members => do
    let value ← value.complete? room
    return (key, value) :: (← completeMembers? room members)
  | _ :: _ => none

end

end Draft

end Json

end ReefRover
