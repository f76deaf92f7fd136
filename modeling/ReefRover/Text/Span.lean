import ReefRover.Text.Lines

/-!
This module contains places in a text, parts of it between two places, and how parts are pointed at
below the lines that they are in.
-/

namespace ReefRover

namespace Text

/-- A place between two characters of a text. Lines and columns count from one. -/
structure Position where
  offset : Nat := 0
  line : Nat := 1
  column : Nat := 1
deriving DecidableEq, Repr

namespace Position

def after (p : Position) (c : Char) : Position :=
  if c == '\n' then
    { offset := p.offset + 1, line := p.line + 1, column := 1 }
  else
    { p with offset := p.offset + 1, column := p.column + 1 }

end Position

structure Span where
  start : Position
  stop : Position
deriving DecidableEq, Repr

namespace Span

def empty (p : Position) : Span :=
  ⟨p, p⟩

def isWithinLine (s : Span) : Bool :=
  s.start.line == s.stop.line

def precedes (s t : Span) : Bool :=
  s.start.offset < t.start.offset
    || (s.start.offset == t.start.offset && s.stop.offset ≤ t.stop.offset)

/-- In words, where a part of several lines is. Its last column is the one before its end. -/
def describe (s : Span) : String :=
  s!"on line {s.start.line} (column {s.start.column}) through line {s.stop.line} "
    ++ s!"(column {s.stop.column - 1})"

end Span

def filled (c : Char) (width : Nat) : String :=
  String.ofList (List.replicate width c)

/--
What stands below a line to point at parts of it, which are in order. An empty part is pointed at
like the character after it.
-/
def pointers (parts : List Span) : String :=
  let (marks, _) := parts.foldl (fun (marks, column) part =>
    let blanks := part.start.column - 1 - column
    let width := max 1 (part.stop.column - part.start.column)
    (marks ++ filled ' ' blanks ++ filled '^' width, column + blanks + width)) ("", 0)
  marks

/--
The lines of a text, each of them after a margin and with pointers below it if parts of it are
pointed at. The margin has the number of the line, if there are several.
-/
def pointedAt (text : String) (parts : List Span) : String :=
  let single := !text.contains '\n'
  let texts := lines text
  let count := texts.length + if text.endsWith "\n" then 1 else 0
  let width := (toString count).length
  let margin (number : Nat) : String :=
    if single then
      filled ' ' 4
    else
      let digits := toString number
      filled ' ' (width - digits.length) ++ digits ++ ": "
  let below (number : Nat) : String :=
    match parts.filter (fun s => s.isWithinLine && s.start.line == number) with
    | [] => ""
    | parts =>
      filled ' ' (margin number).length ++ pointers (parts.mergeSort Span.precedes) ++ "\n"
  String.join <| texts.zipIdx.map fun (line, index) =>
    margin (index + 1) ++ line ++ "\n" ++ below (index + 1)

end Text

end ReefRover
