import ReefRover.Pattern.Basic
import ReefRover.Text.Span

/-!
This module contains the structure of written patterns: characters, marks, sets between brackets,
groups, alternatives and repetitions, each with the part of the text that it is written in.
-/

namespace ReefRover

namespace Pattern

open Text (Position Span)

structure Letter where
  span : Span
  char : Char
  isByte : Bool := false
deriving DecidableEq, Repr

inductive Flag where
  /-- Letters stand for both of their cases. -/
  | anyCase
  /-- Lines have a start and an end of their own. -/
  | lines
  /-- `.` also stands for a line break. -/
  | dotAll
  /-- Repetitions are lazy unless they say otherwise. -/
  | lazily
  /-- Sets and words have characters of all scripts. -/
  | scripts
  /-- A return ends a line too. -/
  | returns
  /-- Blanks and comments mean nothing. -/
  | spaced
deriving DecidableEq, Repr

namespace Flag

def ofLetter? : Char → Option Flag
  | 'i' => some anyCase
  | 'm' => some lines
  | 's' => some dotAll
  | 'U' => some lazily
  | 'u' => some scripts
  | 'R' => some returns
  | 'x' => some spaced
  | _ => none

end Flag

abbrev FlagChanges := List (Flag × Bool)

structure PropertyName where
  text : String
  hasValue : Bool := false
deriving DecidableEq, Repr

inductive SetOperation where
  | intersection
  | difference
  | symmetricDifference
deriving DecidableEq, Repr

inductive SetNotation where
  | empty (span : Span)
  | char (letter : Letter)
  | range (span : Span) (low high : Letter)
  /-- A named set between brackets and colons. -/
  | ascii (span : Span) (negated : Bool) (name : AsciiClass)
  | kind (span : Span) (negated : Bool) (name : AsciiClass)
  | property (span : Span) (negated : Bool) (name : PropertyName)
  | bracket (span : Span) (negated : Bool) (body : SetNotation)
  | union (span : Span) (members : List SetNotation)
  | operation (span : Span) (op : SetOperation) (lhs rhs : SetNotation)

namespace SetNotation

def span : SetNotation → Span
  | empty span | range span .. | ascii span .. | kind span .. | property span .. => span
  | bracket span .. | union span _ | operation span .. => span
  | char letter => letter.span

end SetNotation

inductive Mark where
  | textStart
  | textEnd
  | lineStart
  | lineEnd
  | word (edge : WordEdge)
deriving DecidableEq, Repr

inductive GroupKind where
  | numbered (number : Nat)
  | flags (changes : FlagChanges)
deriving DecidableEq, Repr

inductive Notation where
  | empty (span : Span)
  | flags (span : Span) (changes : FlagChanges)
  | char (letter : Letter)
  | dot (span : Span)
  | mark (span : Span) (mark : Mark)
  | kind (span : Span) (negated : Bool) (name : AsciiClass)
  | property (span : Span) (negated : Bool) (name : PropertyName)
  | set (span : Span) (negated : Bool) (body : SetNotation)
  | times (span : Span) (least : Nat) (most : Option Nat) (lazily : Bool) (body : Notation)
  | group (span : Span) (kind : GroupKind) (body : Notation)
  | either (span : Span) (branches : List Notation)
  | seq (span : Span) (items : List Notation)

namespace Notation

def span : Notation → Span
  | empty span | flags span _ | dot span | mark span _ | kind span .. | property span .. => span
  | set span .. | times span .. | group span .. | either span _ | seq span _ => span
  | char letter => letter.span

def isRepeatable : Notation → Bool
  | empty _ | flags .. => false
  | _ => true

end Notation

/-! ### Depth -/

namespace SetNotation

mutual

/-- The first part with more than `room` parts around it or at it that have parts themselves. -/
def tooDeep? (room : Nat) : SetNotation → Option Span
  | empty _ | char _ | range .. | ascii .. | kind .. | property .. => none
  | bracket span _ body => if room = 0 then some span else body.tooDeep? (room - 1)
  | union span members => if room = 0 then some span else membersTooDeep? (room - 1) members
  | operation span _ lhs rhs =>
    if room = 0 then some span
    else (lhs.tooDeep? (room - 1)).or (rhs.tooDeep? (room - 1))

def membersTooDeep? (room : Nat) : List SetNotation → Option Span
  | [] => none
  | member :: members => (member.tooDeep? room).or (membersTooDeep? room members)

end

end SetNotation

namespace Notation

mutual

def tooDeep? (room : Nat) : Notation → Option Span
  | empty _ | flags .. | char _ | dot _ | mark .. | kind .. | property .. => none
  | set span _ body => if room = 0 then some span else body.tooDeep? (room - 1)
  | times span _ _ _ body | group span _ body =>
    if room = 0 then some span else body.tooDeep? (room - 1)
  | either span items | seq span items =>
    if room = 0 then some span else itemsTooDeep? (room - 1) items

def itemsTooDeep? (room : Nat) : List Notation → Option Span
  | [] => none
  | item :: items => (item.tooDeep? room).or (itemsTooDeep? room items)

end

end Notation

end Pattern

end ReefRover
