import ReefRover.Pattern.CharSet

/-!
This module contains patterns of text and the search for them. A text holds a pattern if some part
of it matches; which part is not asked. A pattern is therefore followed through the text by what is
left to match after each character.
-/

namespace ReefRover

structure Place where
  before : Option Char
  after : Option Char

inductive WordEdge where
  | border
  | noBorder
  | start
  | stop
  /-- Not the one before. -/
  | halfStart
  /-- Not the one after. -/
  | halfStop
deriving DecidableEq, Repr

namespace WordEdge

def holds (before after : Bool) : WordEdge → Bool
  | border => before != after
  | noBorder => before == after
  | start => !before && after
  | stop => before && !after
  | halfStart => !before
  | halfStop => !after

end WordEdge

inductive LineBreak where
  | feed
  /-- A line feed, a return, or a return with a line feed. -/
  | feedOrReturn
deriving DecidableEq, Repr

inductive Boundary where
  | textStart
  | textEnd
  | lineStart (breaks : LineBreak)
  | lineEnd (breaks : LineBreak)
  | word (edge : WordEdge)
  /-- An edge of words of any script. No search for it is supported. -/
  | anyWord (edge : WordEdge)
deriving DecidableEq, Repr

namespace Boundary

def holdsAt (place : Place) : Boundary → Bool
  | textStart => place.before.isNone
  | textEnd => place.after.isNone
  | lineStart .feed => place.before.all (· == '\n')
  | lineEnd .feed => place.after.all (· == '\n')
  | lineStart .feedOrReturn =>
    place.before.all fun c => c == '\n' || (c == '\r' && place.after != some '\n')
  | lineEnd .feedOrReturn =>
    place.after.all fun c => c == '\r' || (c == '\n' && place.before != some '\r')
  | word edge => edge.holds (isWord place.before) (isWord place.after)
  | anyWord _ => false
where
  isWord (c : Option Char) : Bool :=
    c.any AsciiClass.word.toSet.contains

end Boundary

inductive Pattern where
  | empty
  | one (s : CharSet)
  | boundary (b : Boundary)
  | seq (first second : Pattern)
  | either (first second : Pattern)
  | times (least : Nat) (most : Option Nat) (lazily : Bool) (body : Pattern)
  | group (number : Nat) (body : Pattern)
deriving DecidableEq, Repr

namespace Pattern

/-! ### Building patterns -/

/-- One pattern after another. Sequences have no empty parts and nest to the right. -/
def append : Pattern → Pattern → Pattern
  | empty, q => q
  | seq p next, q => seq p (append next q)
  | p, empty => p
  | p, q => seq p q

def concat (ps : List Pattern) : Pattern :=
  ps.foldr append empty

def items : Pattern → List Pattern
  | empty => []
  | seq p next => p :: next.items
  | p => [p]

def branches : Pattern → List Pattern
  | either p next => p :: next.branches
  | p => [p]

/-- The only text that matches, if a pattern is written as the characters of it. -/
def word? : Pattern → Option (List Char)
  | one s => s.single?.map ([·])
  | seq p next => return (← p.word?) ++ (← next.word?)
  | _ => none

/-- The longest words of a sequence, and what stands between them. -/
def parts (p : Pattern) : List Pattern :=
  p.items.foldr (fun item parts =>
    match parts with
    | part :: later =>
      if item.word?.isSome && part.word?.isSome then seq item part :: later
      else item :: parts
    | [] => [item]) []

def ofBranches : List Pattern → Pattern
  | [] => one .empty
  | [p] => p
  | p :: later => either p (ofBranches later)

def set? : Pattern → Option CharSet
  | one s => some s
  | _ => none

/-- A choice of patterns none of which is a choice. Sets of characters become one set. -/
def join (ps : List Pattern) : Pattern :=
  match ps, ps.mapM set? with
  | [p], _ => p
  | _, some sets => one (sets.foldl .union .empty)
  | _, none => ofBranches ps

def sharedStart : List Pattern → List Pattern → List Pattern
  | p :: ps, q :: qs => if p = q then p :: sharedStart ps qs else []
  | _, _ => []

/-- The parts that several patterns begin with, if each of them has more than one part. -/
def sharedParts (ps : List Pattern) : List Pattern :=
  match ps.map parts with
  | first :: second :: later =>
    if (first :: second :: later).all (1 < ·.length) then
      (second :: later).foldl sharedStart first
    else
      []
  | _ => []

/-- A choice of patterns. The parts that all of them begin with stand before the choice. -/
def choice (ps : List Pattern) : Pattern :=
  let ps := ps.flatMap branches
  if (ps.mapM set?).isSome then
    join ps
  else
    let shared := sharedParts ps
    if shared.isEmpty then
      join ps
    else
      let rests := ps.map fun p => concat (p.parts.drop shared.length)
      (concat shared).append (join (rests.flatMap branches))

def isBare : Pattern → Bool
  | empty | boundary _ => true
  | one _ => false
  | seq p q | either p q => p.isBare && q.isBare
  | times _ most _ body => most.isSome && body.isBare
  | group _ body => body.isBare

/-- A pattern several times. What matches the empty text only is repeated once at most. -/
def repeated (least : Nat) (most : Option Nat) (lazily : Bool) (body : Pattern) : Pattern :=
  let (least, most) :=
    if body.isBare then (min least 1, some (min (most.getD 1) 1)) else (least, most)
  if most == some 0 then empty
  else if least == 1 && most == some 1 then body
  else times least most lazily body

def asksAnyWord : Pattern → Bool
  | boundary (.anyWord _) => true
  | empty | one _ | boundary _ => false
  | seq p q | either p q => p.asksAnyWord || q.asksAnyWord
  | times _ _ _ body | group _ body => body.asksAnyWord

/-! ### Searching -/

def matchesEmpty (place : Place) : Pattern → Bool
  | empty => true
  | one _ => false
  | boundary b => b.holdsAt place
  | seq p q => p.matchesEmpty place && q.matchesEmpty place
  | either p q => p.matchesEmpty place || q.matchesEmpty place
  | times least _ _ body => least == 0 || body.matchesEmpty place
  | group _ body => body.matchesEmpty place

/--
What may be left to match after the character `c` that follows a place. Of a body that matches the
empty text, any number of repetitions may have come before.
-/
def rest (place : Place) (c : Char) : Pattern → List Pattern
  | empty | boundary _ => []
  | one s => if s.contains c then [empty] else []
  | seq p q =>
    (p.rest place c).map (append · q) ++ if p.matchesEmpty place then q.rest place c else []
  | either p q => p.rest place c ++ q.rest place c
  | times least most lazily body =>
    if most == some 0 then
      []
    else
      let least := if body.matchesEmpty place then 0 else least - 1
      (body.rest place c).map (append · (times least (most.map (· - 1)) lazily body))
  | group _ body => body.rest place c

/--
Whether a pattern is seen to match all that another one matches: they are the same, except that its
repetitions may have wider bounds.
-/
def covers : Pattern → Pattern → Bool
  | seq p q, seq p' q' => p.covers p' && q.covers q'
  | times least most _ body, times least' most' _ body' =>
    least ≤ least' && most.all (fun m => most'.any (· ≤ m)) && body = body'
  | p, q => p = q

def addTo (ps : List Pattern) (p : Pattern) : List Pattern :=
  if ps.any (·.covers p) then ps else p :: ps.filter (!p.covers ·)

/--
Whether a pattern matches somewhere in a text. `active` is what may be left of matches that are
under way.
-/
def foundFrom (p : Pattern) (before : Option Char) (active : List Pattern) : List Char → Bool
  | [] => active.any (matchesEmpty ⟨before, none⟩)
  | c :: later =>
    let place : Place := ⟨before, some c⟩
    active.any (matchesEmpty place)
      || p.foundFrom (some c) ((active.flatMap (rest place c)).foldl addTo [p]) later

def isIn (p : Pattern) (text : String) : Bool :=
  p.foundFrom none [p] text.toList

end Pattern

end ReefRover
