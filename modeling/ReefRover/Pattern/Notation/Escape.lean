import ReefRover.Pattern.Notation.Basic
import ReefRover.Pattern.Notation.Cursor

/-!
This module contains how escapes are read: characters by their number or a letter, kinds of
characters, properties, and edges of words.
-/

namespace ReefRover

namespace Pattern

open Text (Position Span)

namespace Reading

/-! ### Characters by their number -/

def hexDigit? (c : Char) : Option Nat :=
  if c.isDigit then some (c.toNat - '0'.toNat)
  else if 'a' ≤ c && c ≤ 'f' then some (c.toNat - 'a'.toNat + 10)
  else if 'A' ≤ c && c ≤ 'F' then some (c.toNat - 'A'.toNat + 10)
  else none

def charOf? (digits : List Nat) : Option Char :=
  let code := digits.foldl (fun code d => 16 * code + d) 0
  if code.isValidChar then some (Char.ofNat code) else none

def nextDigit : Reading Nat := do
  match (← next?).bind hexDigit? with
  | some d => return d
  | none => refuse .noHexDigit (← nextSpan)

def moreDigits : (count : Nat) → Reading (List Nat)
  | 0 => return []
  | count + 1 => do
    unless ← step do
      refuse .escapeAtEnd (.empty (← here))
    let d ← nextDigit
    return d :: (← moreDigits count)

def digitsToBrace : (fuel : Nat) → Reading (List Nat)
  | 0 => return []
  | fuel + 1 => do
    if !(← step) || (← next?) == some '\x7d' then
      return []
    else
      let d ← nextDigit
      return d :: (← digitsToBrace fuel)

/-- A character by its number, with as many digits as its mark says or with braces around them. -/
def hexLetter (start : Position) (count : Nat) : Reading Letter := do
  unless ← step do
    refuse .escapeAtEnd (.empty (← here))
  if (← next?) == some '\x7b' then
    let brace ← nextSpan
    let digits ← digitsToBrace (← fuel)
    if ← isAtEnd then
      refuse .escapeAtEnd (← spanFrom brace.start)
    let stop ← here
    let _ ← step
    if digits.isEmpty then
      refuse .emptyHex (← spanFrom brace.start)
    match charOf? digits with
    | some char => return { span := ← spanFrom start, char }
    | none => refuse .noCharacter ⟨brace.stop, stop⟩
  else
    let first ← here
    let d ← nextDigit
    let digits := d :: (← moreDigits (count - 1))
    let _ ← step
    match charOf? digits with
    | some char => return { span := ← spanFrom start, char, isByte := count == 2 }
    | none => refuse .noCharacter (← spanFrom first)

/-! ### Properties -/

def textToBrace : (fuel : Nat) → Reading (List Char)
  | 0 => return []
  | fuel + 1 => do
    if !(← step) then
      return []
    else
      match ← next? with
      | none | some '\x7d' => return []
      | some c => return c :: (← textToBrace fuel)

/-- The name of a property: one letter, or a text between braces, with a value after `:` or `=`. -/
def propertyName : Reading PropertyName := do
  unless ← step do
    refuse .escapeAtEnd (.empty (← here))
  match ← next? with
  | some '\x7b' =>
    let text ← textToBrace (← fuel)
    if ← isAtEnd then
      refuse .escapeAtEnd (.empty (← here))
    let _ ← advance
    return { text := String.ofList text, hasValue := text.contains ':' || text.contains '=' }
  | some '\\' => refuse .badPropertyName (← nextSpan)
  | c =>
    let _ ← step
    return { text := String.ofList c.toList }

/-! ### Edges of words -/

def edgeOf? : String → Option WordEdge
  | "start" => some .start
  | "end" => some .stop
  | "start-half" => some .halfStart
  | "end-half" => some .halfStop
  | _ => none

/--
The name between braces of an edge, after an escape at `start`. What cannot be a name is left to be
read as a repetition.
-/
def namedEdge? (start : Position) : Reading (Option WordEdge) := do
  let isNameChar (c : Char) : Bool := c.isAlpha || c == '-'
  let brace ← get
  unless ← step do
    refuse .unclosedEdgeOrCount (← spanFrom start)
  let first ← here
  if !(← next?).any isNameChar then
    set brace
    return none
  else
    let name ← stepWhile isNameChar (← fuel)
    if (← next?) != some '\x7d' then
      refuse .unclosedEdge (← spanFrom brace.position)
    let named ← spanFrom first
    let _ ← advance
    match edgeOf? (String.ofList name) with
    | some edge => return some edge
    | none => refuse .unknownEdge named

/-! ### Escapes -/

def charOfEscape? : Char → Option Char
  | 'a' => some '\x07'
  | 'f' => some '\x0c'
  | 't' => some '\t'
  | 'n' => some '\n'
  | 'r' => some '\r'
  | 'v' => some '\x0b'
  | '<' | '>' => none
  | c => if c < '\x80' && !c.isAlphanum then some c else none

def markOfEscape? : Char → Option Mark
  | 'A' => some .textStart
  | 'z' => some .textEnd
  | 'b' => some (.word .border)
  | 'B' => some (.word .noBorder)
  | '<' => some (.word .start)
  | '>' => some (.word .stop)
  | _ => none

def kindOfEscape? : Char → Option (Bool × AsciiClass)
  | 'd' => some (false, .digit)
  | 's' => some (false, .space)
  | 'w' => some (false, .word)
  | 'D' => some (true, .digit)
  | 'S' => some (true, .space)
  | 'W' => some (true, .word)
  | _ => none

def digitsOfEscape? : Char → Option Nat
  | 'x' => some 2
  | 'u' => some 4
  | 'U' => some 8
  | _ => none

def shortEscape (start : Position) (c : Char) : Reading Notation := do
  let span ← spanFrom start
  match charOfEscape? c, markOfEscape? c, kindOfEscape? c with
  | some char, _, _ => return .char { span, char }
  | _, some mark, _ =>
    if c == 'b' && (← next?) == some '\x7b' then
      match ← namedEdge? start with
      | some edge => return .mark (← spanFrom start) (.word edge)
      | none => return .mark span mark
    else
      return .mark span mark
  | _, _, some (negated, name) => return .kind span negated name
  | _, _, _ => refuse .unknownEscape span

def escape : Reading Notation := do
  let start ← here
  let _ ← advance
  match ← next? with
  | none => refuse .escapeAtEnd (← spanFrom start)
  | some c =>
    if c.isDigit then
      refuse .backreference ⟨start, (← nextSpan).stop⟩
    else if let some count := digitsOfEscape? c then
      return .char (← hexLetter start count)
    else if c == 'p' || c == 'P' then
      let name ← propertyName
      return .property (← spanFrom start) (c == 'P') name
    else
      let _ ← advance
      shortEscape start c

end Reading

end Pattern

end ReefRover
