import ReefRover.Pattern.Notation.Bracket
import ReefRover.Text.Letters
import ReefRover.Text.Numbers

/-!
This module contains how a written pattern is read as a whole: groups, flags, alternatives and
repetitions around what other modules read.
-/

namespace ReefRover

namespace Pattern

open Text (Position Span)

namespace Reading

/-! ### Groups -/

def isNameChar (first : Bool) (c : Char) : Bool :=
  c == '_' || Text.isLetter c
    || (!first && (Text.isNumeral c || c == '.' || c == '[' || c == ']'))

def nameChars (first : Bool) : (fuel : Nat) → Reading (List Char)
  | 0 => return []
  | fuel + 1 => do
    match ← next? with
    | none => refuse .unclosedName (.empty (← here))
    | some '>' => return []
    | some c =>
      unless isNameChar first c do
        refuse .badName (← nextSpan)
      let _ ← advance
      return c :: (← nameChars false fuel)

def groupName : Reading Unit := do
  let start ← here
  let name ← nameChars true (← fuel)
  let span ← spanFrom start
  let _ ← advance
  if name.isEmpty then
    refuse .emptyName (.empty start)
  match (← get).names.find? (·.1 == name) with
  | some (_, earlier) => throw { fault := .repeatedName, span, earlier }
  | none => modify fun c => { c with names := (name, span) :: c.names }

/-- A mark between flags that clears those after it, or a flag. -/
abbrev FlagItem := Option Flag × Span

/-- The flags up to the mark that ends them. `items` are those before, the last one first. -/
def flagItems (items : List FlagItem) : (fuel : Nat) → Reading (List FlagItem)
  | 0 => return items
  | fuel + 1 => do
    match ← next? with
    | none => refuse .flagsAtEnd (.empty (← here))
    | some ':' | some ')' =>
      if let (none, span) :: _ := items then
        refuse .danglingNegation span
      return items
    | some c =>
      let span ← nextSpan
      let flag ←
        if c == '-' then
          pure none
        else
          match Flag.ofLetter? c with
          | some flag => pure (some flag)
          | none => refuse .unknownFlag span
      if let some (_, earlier) := items.find? (·.1 == flag) then
        throw { fault := if flag.isNone then .repeatedNegation else .repeatedFlag, span, earlier }
      let _ ← advance
      flagItems ((flag, span) :: items) fuel

/-- What flags change. Those after a dash are cleared. -/
def changesOf (items : List FlagItem) : FlagChanges :=
  let flags := items.map Prod.fst
  let (set, cleared) := flags.span Option.isSome
  (set.filterMap id).map (·, true) ++ (cleared.filterMap id).map (·, false)

inductive Opening where
  | group (kind : GroupKind)
  | flags (changes : FlagChanges)

def numbered : Reading Opening := do
  modify fun c => { c with groups := c.groups + 1 }
  return .group (.numbered (← get).groups)

def opening : Reading Opening := do
  let bracket ← nextSpan
  let _ ← step
  for mark in [['?', '='], ['?', '!'], ['?', '<', '='], ['?', '<', '!']] do
    if ← accept mark then
      refuse .lookAround (← spanFrom bracket.start)
  let inner ← here
  if (← accept ['?', 'P', '<']) || (← accept ['?', '<']) then
    groupName
    numbered
  else if ← accept ['?'] then
    if ← isAtEnd then
      refuse .unclosedGroup bracket
    let items ← flagItems [] (← fuel)
    let isGroup := (← next?) == some ':'
    let _ ← advance
    let changes := changesOf items.reverse
    if isGroup then
      return .group (.flags changes)
    else if items.isEmpty then
      refuse .nothingToRepeat (.empty inner)
    else
      return .flags changes
  else
    numbered

/-! ### Repetitions -/

/-- A number, which may have blanks around it. Whether it is one is left to be looked at. -/
def count : Reading (Except NotationError Nat) := do
  modify Cursor.skipBlanks
  let start ← here
  let digits ← stepWhile Char.isDigit (← fuel)
  let span ← spanFrom start
  let _ ← stepWhile Text.isBlank (← fuel)
  let number := digits.foldl (fun n d => 10 * n + (d.toNat - '0'.toNat)) 0
  if digits.isEmpty then
    return .error { fault := .noCount, span }
  else if Nat.pow 2 32 ≤ number then
    return .error { fault := .countTooLarge, span }
  else
    return .ok number

def acceptLazy : Reading Bool :=
  accept ['?']

def counts (start : Position) : Reading (Nat × Option Nat × Bool) := do
  let unclosed {α : Type} : Reading α := do refuse .unclosedCount (← spanFrom start)
  unless ← step do
    unclosed
  let first ← count
  if ← isAtEnd then
    unclosed
  let (least, most) ←
    if (← next?) != some ',' then
      let n ← liftExcept first
      pure (n, some n)
    else
      unless ← step do
        unclosed
      let least ← liftExcept first
      if (← next?) == some '\x7d' then
        pure (least, none)
      else
        pure (least, some (← liftExcept (← count)))
  if (← next?) != some '\x7d' then
    unclosed
  let _ ← step
  let lazily ← acceptLazy
  if most.any (· < least) then
    refuse .reversedCount (← spanFrom start)
  return (least, most, lazily)
where
  liftExcept {α : Type} (r : Except NotationError α) : Reading α :=
    MonadExcept.ofExcept r

/-! ### Alternatives -/

structure Alternatives where
  start : Position
  /-- The alternatives before the last one, the last of them first. -/
  earlier : List Notation := []
  lastStart : Position
  /-- The items of the last alternative, the last one first. -/
  items : List Notation := []

namespace Alternatives

def begin (start : Position) : Alternatives :=
  { start, lastStart := start }

def push (a : Alternatives) (item : Notation) : Alternatives :=
  { a with items := item :: a.items }

def last (a : Alternatives) (stop : Position) : Notation :=
  match a.items with
  | [] => .empty ⟨a.lastStart, stop⟩
  | [item] => item
  | items => .seq ⟨a.lastStart, stop⟩ items.reverse

def complete (a : Alternatives) (stop : Position) : Notation :=
  if a.earlier.isEmpty then
    a.last stop
  else
    .either ⟨a.start, stop⟩ (a.last stop :: a.earlier).reverse

def alternate (a : Alternatives) (stop next : Position) : Alternatives :=
  { a with earlier := a.last stop :: a.earlier, lastStart := next, items := [] }

end Alternatives

structure OpenGroup where
  bracket : Span
  kind : GroupKind
  spaced : Bool
  outer : Alternatives

def repeatLast (a : Alternatives) (counts : Reading (Nat × Option Nat × Bool)) :
    Reading Alternatives := do
  match a.items with
  | item :: items =>
    if item.isRepeatable then
      let (least, most, lazily) ← counts
      let span ← spanFrom item.span.start
      return { a with items := .times span least most lazily item :: items }
    else
      refuse .nothingToRepeat (.empty (← here))
  | [] => refuse .nothingToRepeat (.empty (← here))

def shortCounts (least : Nat) (most : Option Nat) : Reading (Nat × Option Nat × Bool) := do
  let _ ← advance
  return (least, most, ← acceptLazy)

def plain (c : Char) : Reading Notation := do
  let span ← nextSpan
  let _ ← advance
  match c with
  | '.' => return .dot span
  | '^' => return .mark span .lineStart
  | '$' => return .mark span .lineEnd
  | c => return .char { span, char := c }

def rest : (fuel : Nat) → Alternatives → List OpenGroup → Reading Notation
  | 0, a, _ => return a.complete (← here)
  | fuel + 1, a, groups => do
    modify Cursor.skip
    let stop ← here
    match ← next? with
    | none =>
      match groups with
      | [] => return a.complete stop
      | inner :: _ => refuse .unclosedGroup inner.bracket
    | some '(' =>
      let bracket ← nextSpan
      let spaced := (← get).spaced
      match ← opening with
      | .flags changes =>
        setSpaced changes
        rest fuel (a.push (.flags (← spanFrom stop) changes)) groups
      | .group kind =>
        if let .flags changes := kind then
          setSpaced changes
        rest fuel (.begin (← here)) ({ bracket, kind, spaced, outer := a } :: groups)
    | some ')' =>
      match groups with
      | [] => refuse .unopenedGroup (← nextSpan)
      | inner :: groups =>
        modify fun c => { c with spaced := inner.spaced }
        let _ ← advance
        let span ← spanFrom inner.bracket.start
        rest fuel (inner.outer.push (.group span inner.kind (a.complete stop))) groups
    | some '|' =>
      let _ ← advance
      rest fuel (a.alternate stop (← here)) groups
    | some '[' => rest fuel (a.push (← bracketed)) groups
    | some '*' => rest fuel (← repeatLast a (shortCounts 0 none)) groups
    | some '+' => rest fuel (← repeatLast a (shortCounts 1 none)) groups
    | some '?' => rest fuel (← repeatLast a (shortCounts 0 (some 1))) groups
    | some '\x7b' => rest fuel (← repeatLast a (counts stop)) groups
    | some '\\' => rest fuel (a.push (← escape)) groups
    | some c => rest fuel (a.push (← plain c)) groups
where
  setSpaced (changes : FlagChanges) : Reading Unit :=
    match changes.find? (·.1 == .spaced) with
    | some (_, spaced) => modify fun c => { c with spaced }
    | none => pure ()

end Reading

/-- How deep the parts of a written pattern may lie within each other. -/
def depthLimit : Nat := 250

def Notation.ofText (text : String) : Except NotationError Notation := do
  let (pattern, _) ← (Reading.rest (text.length + 1) (.begin {}) []).run { left := text.toList }
  match pattern.tooDeep? depthLimit with
  | none => return pattern
  | some span => throw { fault := .tooDeep depthLimit, span }

end Pattern

end ReefRover
