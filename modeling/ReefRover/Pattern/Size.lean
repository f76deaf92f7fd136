import ReefRover.Pattern.Basic
import ReefRover.Pattern.Encoding

/-!
This module contains the size of patterns: how many bytes a machine takes that reads the bytes of a
text and finds a pattern in it. A pattern has a machine that reads forward and one that reads
backward. One whose machines are too large is not searched for.
-/

namespace ReefRover

namespace Pattern

inductive Direction where
  | forward
  | backward
deriving DecidableEq, Repr

namespace Size

/-- The bytes of a state. -/
def state : Nat := 32

/-- The bytes of a link from a state that has several to another state. -/
def link : Nat := 4

/-- The bytes of a link that is taken for a stretch of bytes. -/
def step : Nat := 8

def sumOf (parts : List Nat) : Nat :=
  parts.foldl (· + ·) 0

/-! ### Sets -/

def heads {α : Type} [BEq α] (sequences : List (List α)) : List α :=
  (sequences.filterMap List.head?).eraseDups

def after {α : Type} [BEq α] (head : α) (sequences : List (List α)) : List (List α) :=
  sequences.filterMap fun
    | first :: later => if first == head then some later else none
    | [] => none

/-- What may be left of some sequences while one of at most `length` stretches is read. -/
def unread : (length : Nat) → List (List ByteRange) → List (List (List ByteRange))
  | 0, _ => []
  | length + 1, sequences =>
    let heads := heads sequences
    if heads.isEmpty then
      []
    else
      sequences :: heads.flatMap fun head => unread length (after head sequences)

/-- A forward machine has a state for all that may be left, a backward one for all that was read. -/
def ofSequences (sequences : List (List ByteRange)) : Direction → Nat
  | .forward =>
    let states := (unread 4 sequences).eraseDups
    state + sumOf (states.map fun left => state + step * (heads left).length)
  | .backward =>
    let beginnings (s : List ByteRange) := (List.range s.length).map fun n => s.take (n + 1)
    let states := (sequences.flatMap beginnings).eraseDups
    2 * state + link * sequences.length + state * states.length

def ofSet (s : CharSet) (direction : Direction) : Nat :=
  match s.single? with
  | some c => state * c.utf8Size
  | none =>
    if s.isAscii then 2 * state + step * s.ranges.length
    else ofSequences s.encodings direction

/-! ### Words -/

/--
The states that read one of some words after their common beginning, at most `length` bytes of
each. The words are tried in order: those before and after one that ends here are kept apart. Where
all words end, no state is left to make.
-/
def ofRests : (length : Nat) → List (List UInt8) → Nat
  | 0, _ => 0
  | length + 1, words =>
    if words.all List.isEmpty then
      0
    else
      let ends := words.count [] - ((words.takeWhile List.isEmpty).length - 1)
      let runs := (words.splitOn []).filter (!·.isEmpty)
      let ofRun (run : List (List UInt8)) : Nat :=
        let heads := heads run
        let links := if heads.length == 1 then 0 else step * heads.length
        state + links + sumOf (heads.map fun head => ofRests length (after head run))
      state + link * (runs.length + ends) + sumOf (runs.map ofRun)

/-- Words of a choice share the states for what they begin with, or end with if read backward. -/
def ofWords (words : List (List Char)) (direction : Direction) : Nat :=
  let bytes (word : List Char) : List UInt8 :=
    let bytes := word.flatMap String.utf8EncodeChar
    match direction with
    | .forward => bytes
    | .backward => bytes.reverse
  let words := words.map bytes
  let longest := (words.map List.length).foldl max 0
  state + ofRests (longest + 1) words

end Size

/-! ### Patterns -/

/-- The fewest bytes that a match has. A pattern with an empty set has no matches to count. -/
def shortest? : Pattern → Option Nat
  | empty | boundary _ => some 0
  | one s => s.ranges.head?.map (·.low.utf8Size)
  | seq p q => return (← p.shortest?) + (← q.shortest?)
  | either p q => return min (← p.shortest?) (← q.shortest?)
  | times least _ _ body => body.shortest?.map (least * ·)
  | group _ body => body.shortest?

def isAtStart : Pattern → Bool
  | boundary b => b == .textStart
  | empty | one _ => false
  | seq p q => p.isAtStart || (p.isBare && q.isAtStart)
  | either p q => p.isAtStart && q.isAtStart
  | times least _ _ body => least != 0 && body.isAtStart
  | group _ body => body.isAtStart

def isAtEnd : Pattern → Bool
  | boundary b => b == .textEnd
  | empty | one _ => false
  | seq p q => q.isAtEnd || (q.isBare && p.isAtEnd)
  | either p q => p.isAtEnd && q.isAtEnd
  | times least _ _ body => least != 0 && body.isAtEnd
  | group _ body => body.isAtEnd

structure Size where
  total : Nat
  branches : Nat
  words? : Option (List (List Char))

namespace Size

def ofBranch (p : Pattern) (total : Nat) : Size :=
  { total, branches := link + total, words? := p.word?.map ([·]) }

def ofTimes (least : Nat) (most : Option Nat) (mayBeEmpty : Bool) (body : Nat) : Nat :=
  match least, most with
  | 0, none => (if mayBeEmpty then 3 * state + 4 * link else state + 2 * link) + body
  | 0, some 1 => 2 * state + 2 * link + body
  | least, none => least * body + state + 2 * link
  | least, some most =>
    if least = most then
      least * body
    else
      (if least = 0 then state else least * body) + state
        + (most - least) * (state + 2 * link + body)

end Size

/-- The size of a pattern's part of a machine. Numbers of groups are only kept by a forward one. -/
def size (direction : Direction) : Pattern → Size
  | empty => .ofBranch empty Size.state
  | boundary b => .ofBranch (boundary b) Size.state
  | one s => .ofBranch (one s) (Size.ofSet s direction)
  | seq p q => .ofBranch (seq p q) ((p.size direction).total + (q.size direction).total)
  | group number body =>
    let marks := if direction == .forward then 2 * Size.state else 0
    .ofBranch (group number body) (marks + (body.size direction).total)
  | times least most lazily body =>
    let mayBeEmpty := !body.shortest?.any (0 < ·)
    .ofBranch (times least most lazily body)
      (Size.ofTimes least most mayBeEmpty (body.size direction).total)
  | either p q =>
    let p := p.size direction
    let q := q.size direction
    let branches := p.branches + q.branches
    let words? := do return (← p.words?) ++ (← q.words?)
    let total :=
      match words? with
      | some words => Size.ofWords words direction
      | none => 2 * Size.state + branches
    { total, branches, words? }

/--
The size of a machine for a pattern. Unless the pattern says where matches begin, or end for a
backward machine, it has states to pass over the text before them.
-/
def machineSize (direction : Direction) (p : Pattern) : Nat :=
  let isAnchored :=
    match direction with
    | .forward => p.isAtStart
    | .backward => p.isAtEnd
  let start := if isAnchored then Size.state else 3 * Size.state + 2 * Size.link + Size.step
  let marks := if direction == .forward then 2 * Size.state else 0
  start + marks + (p.size direction).total + Size.state

/-- The bytes that a machine may take. -/
def sizeLimit : Nat := 10 * Nat.pow 2 20

def isTooLarge (direction : Direction) (p : Pattern) : Bool :=
  sizeLimit < p.machineSize direction

end Pattern

end ReefRover
