import ReefRover.Pattern.Notation.Fault
import ReefRover.Text.Blank

/-!
This module contains the steps in which a written pattern is read. A cursor stands before what is
left of the text. Where blanks and comments mean nothing, most steps pass over them.
-/

namespace ReefRover

namespace Pattern

open Text (Position Span)

structure Cursor where
  position : Position := {}
  left : List Char
  spaced : Bool := false
  groups : Nat := 0
  names : List (List Char × Span) := []

namespace Cursor

def advance (c : Cursor) : Cursor :=
  match c.left with
  | [] => c
  | next :: left => { c with position := c.position.after next, left }

def advanceBy (c : Cursor) : Nat → Cursor
  | 0 => c
  | n + 1 => c.advance.advanceBy n

/-- Where blanks and comments end. A comment goes from `#` to the end of the line. -/
def afterBlanks (inComment : Bool) (position : Position) : List Char → Position × List Char
  | [] => (position, [])
  | c :: left =>
    if inComment then afterBlanks (c != '\n') (position.after c) left
    else if Text.isBlank c then afterBlanks false (position.after c) left
    else if c == '#' then afterBlanks true (position.after c) left
    else (position, c :: left)

def skip (c : Cursor) : Cursor :=
  if c.spaced then
    let (position, left) := afterBlanks false c.position c.left
    { c with position, left }
  else
    c

def skipBlanks (c : Cursor) : Cursor :=
  c.advanceBy (c.left.takeWhile Text.isBlank).length

def span (c : Cursor) : Span :=
  ⟨c.position, c.advance.position⟩

/--
The character that comes after the next one. Where blanks mean nothing they are passed over, but of
a comment only the mark that begins it is.
-/
def second? (c : Cursor) : Option Char :=
  let later := c.left.drop 1
  if c.spaced then
    match later.dropWhile Text.isBlank with
    | '#' :: comment => (comment.dropWhile Text.isBlank).head?
    | later => later.head?
  else
    later.head?

end Cursor

abbrev Reading := StateT Cursor (Except NotationError)

namespace Reading

def refuse {α : Type} (fault : Fault) (span : Span) : Reading α :=
  throw { fault, span }

def here : Reading Position :=
  return (← get).position

def spanFrom (start : Position) : Reading Span :=
  return ⟨start, ← here⟩

def next? : Reading (Option Char) :=
  return (← get).left.head?

def isAtEnd : Reading Bool :=
  return (← get).left.isEmpty

def nextSpan : Reading Span :=
  return (← get).span

def advance : Reading Bool := do
  modify Cursor.advance
  return !(← isAtEnd)

def step : Reading Bool := do
  modify (·.advance.skip)
  return !(← isAtEnd)

/-- Passes over a word if it comes next, and tells whether it does. -/
def accept (word : List Char) : Reading Bool := do
  if word.isPrefixOf (← get).left then
    modify (·.advanceBy word.length)
    return true
  else
    return false

def stepWhile (accepted : Char → Bool) : (fuel : Nat) → Reading (List Char)
  | 0 => return []
  | fuel + 1 => do
    match ← next? with
    | none => return []
    | some c =>
      if accepted c then
        let _ ← step
        return c :: (← stepWhile accepted fuel)
      else
        return []

def fuel : Reading Nat :=
  return (← get).left.length + 1

end Reading

end Pattern

end ReefRover
