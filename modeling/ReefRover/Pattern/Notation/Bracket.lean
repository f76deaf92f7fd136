import ReefRover.Pattern.Notation.Escape

/-!
This module contains how sets between brackets are read: characters, ranges, named sets, sets within
sets, and operations on the sets to the left and right of them.
-/

namespace ReefRover

namespace Pattern

open Text (Position Span)

structure OpenBracket where
  span : Span
  negated : Bool
  /-- The operation that waits for its right operand, and the left one. -/
  pending : Option (SetOperation × SetNotation) := none
  start : Position
  /-- The members, the last one first. -/
  members : List SetNotation := []

namespace OpenBracket

def add (b : OpenBracket) (member : SetNotation) : OpenBracket :=
  { b with members := member :: b.members }

def operand (b : OpenBracket) : SetNotation :=
  match b.members with
  | [] => .empty (.empty b.start)
  | [member] => member
  | last :: earlier =>
    let members := (last :: earlier).reverse
    let first := members.head?.getD last
    .union ⟨first.span.start, last.span.stop⟩ members

/-- All that was read. Operations go from left to right. -/
def body (b : OpenBracket) : SetNotation :=
  match b.pending with
  | none => b.operand
  | some (op, lhs) => .operation ⟨lhs.span.start, b.operand.span.stop⟩ op lhs b.operand

def operate (b : OpenBracket) (op : SetOperation) (start : Position) : OpenBracket :=
  { b with pending := some (op, b.body), start, members := [] }

end OpenBracket

namespace Reading

/--
Steps over a character that is a member. If nothing is left, the set from `start` on is unclosed up
to a place that depends on the cursor's.
-/
def member (start : Position) (stop : Position → Position) : Reading SetNotation := do
  let letter : Letter := { span := ← nextSpan, char := (← next?).getD '-' }
  unless ← step do
    refuse .unclosedSet ⟨start, stop (← here)⟩
  return .char letter

/-- Dashes at the beginning of a set, each of which is a member. The last one comes first. -/
def dashes (start : Position) (members : List SetNotation) :
    (fuel : Nat) → Reading (List SetNotation)
  | 0 => return members
  | fuel + 1 => do
    if (← next?) == some '-' then
      dashes start ((← member start fun _ => start) :: members) fuel
    else
      return members

/-- The bracket at the cursor. Dashes that follow it are members, or else a closing bracket is. -/
def openBracket : Reading OpenBracket := do
  let start ← here
  unless ← step do
    refuse .unclosedSet (← spanFrom start)
  let negated := (← next?) == some '^'
  if negated then
    unless ← step do
      refuse .unclosedSet (← spanFrom start)
  let first ← here
  let members ← dashes start [] (← fuel)
  let members ←
    if members.isEmpty && (← next?) == some ']' then
      pure [← member start id]
    else
      pure members
  return { span := ← spanFrom start, negated, start := first, members }

def asciiClass? : Reading (Option SetNotation) := do
  let start ← here
  match (← get).left with
  | '[' :: ':' :: later =>
    let negated := later.head? == some '^'
    let later := if negated then later.drop 1 else later
    let name := later.takeWhile (· != ':')
    match AsciiClass.ofName? (String.ofList name) with
    | some set =>
      let before := ['[', ':'] ++ (if negated then ['^'] else [])
      if ← accept (before ++ name ++ [':', ']']) then
        return some (.ascii (← spanFrom start) negated set)
      else
        return none
    | none => return none
  | _ => return none

def setItem : Reading Notation := do
  if (← next?) == some '\\' then
    escape
  else
    let letter : Letter := { span := ← nextSpan, char := (← next?).getD '\\' }
    let _ ← advance
    return .char letter

def rangeEnd : Notation → Reading Letter
  | .char letter => return letter
  | other => refuse .rangeOfSets other.span

def asMember : Notation → Reading SetNotation
  | .char letter => return .char letter
  | .kind span negated name => return .kind span negated name
  | .property span negated name => return .property span negated name
  | other => refuse .escapeInSet other.span

def setMember (bracket : Span) : Reading SetNotation := do
  let low ← setItem
  modify Cursor.skip
  if ← isAtEnd then
    refuse .unclosedSet bracket
  let second := (← get).second?
  if (← next?) != some '-' || second == some ']' || second == some '-' then
    asMember low
  else
    unless ← step do
      refuse .unclosedSet bracket
    let high ← setItem
    let span : Span := ⟨low.span.start, high.span.stop⟩
    let low ← rangeEnd low
    let high ← rangeEnd high
    if low.char ≤ high.char then
      return .range span low high
    else
      refuse .reversedRange span

def operation? : Reading (Option SetOperation) := do
  if ← accept ['&', '&'] then
    return some .intersection
  else if ← accept ['-', '-'] then
    return some .difference
  else if ← accept ['~', '~'] then
    return some .symmetricDifference
  else
    return none

def setRest : (fuel : Nat) → OpenBracket → (outer : List OpenBracket) → Reading Notation
  | 0, bracket, _ => refuse .unclosedSet bracket.span
  | fuel + 1, bracket, outer => do
    modify Cursor.skip
    match ← next? with
    | none => refuse .unclosedSet bracket.span
    | some '[' =>
      match ← asciiClass? with
      | some named => setRest fuel (bracket.add named) outer
      | none => setRest fuel (← openBracket) (bracket :: outer)
    | some ']' =>
      let _ ← advance
      let span ← spanFrom bracket.span.start
      match outer with
      | [] => return .set span bracket.negated bracket.body
      | parent :: outer =>
        setRest fuel (parent.add (.bracket span bracket.negated bracket.body)) outer
    | some _ =>
      match ← operation? with
      | some op => setRest fuel (bracket.operate op (← here)) outer
      | none => setRest fuel (bracket.add (← setMember bracket.span)) outer

def bracketed : Reading Notation := do
  let fuel ← fuel
  setRest fuel (← openBracket) []

end Reading

end Pattern

end ReefRover
