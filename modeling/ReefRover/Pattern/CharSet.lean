/-!
This module contains sets of characters as stretches between two characters. The stretches of a set
are in order, and no two of them meet, so a set has one form. Surrogates are no characters, but two
stretches on both sides of them do not meet.
-/

namespace ReefRover

structure CharRange where
  low : Char
  high : Char
deriving DecidableEq, Repr

namespace CharRange

def contains (r : CharRange) (c : Char) : Bool :=
  r.low ≤ c && c ≤ r.high

def lastChar : Char := Char.ofNat 0x10ffff

def charAfter (c : Char) : Char :=
  if c == '\ud7ff' then '\ue000' else Char.ofNat (c.toNat + 1)

def charBefore (c : Char) : Char :=
  if c == '\ue000' then '\ud7ff' else Char.ofNat (c.toNat - 1)

def between (c d : Char) : CharRange :=
  if c ≤ d then ⟨c, d⟩ else ⟨d, c⟩

/-- Whether nothing is between two stretches or they have characters in common. -/
def meets (r s : CharRange) : Bool :=
  r.low.toNat ≤ s.high.toNat + 1 && s.low.toNat ≤ r.high.toNat + 1

def earlier (c d : Char) : Char :=
  if c ≤ d then c else d

def later (c d : Char) : Char :=
  if c ≤ d then d else c

def hull (r s : CharRange) : CharRange :=
  ⟨earlier r.low s.low, later r.high s.high⟩

def overlap? (r s : CharRange) : Option CharRange :=
  let low := later r.low s.low
  let high := earlier r.high s.high
  if low ≤ high then some ⟨low, high⟩ else none

def without (r s : CharRange) : List CharRange :=
  if (r.overlap? s).isNone then
    [r]
  else
    (if r.low < s.low then [⟨r.low, charBefore s.low⟩] else [])
      ++ (if s.high < r.high then [⟨charAfter s.high, r.high⟩] else [])

end CharRange

structure CharSet where
  ranges : List CharRange := []
deriving DecidableEq, Repr

namespace CharSet

open CharRange (lastChar charAfter charBefore)

def contains (s : CharSet) (c : Char) : Bool :=
  s.ranges.any (·.contains c)

def isEmpty (s : CharSet) : Bool :=
  s.ranges.isEmpty

def empty : CharSet := {}

def full : CharSet := ⟨[⟨'\x00', lastChar⟩]⟩

/-- Stretches in order with another one, which takes in those that it meets. -/
def insertRange (r : CharRange) : List CharRange → List CharRange
  | [] => [r]
  | s :: later =>
    if r.meets s then insertRange (r.hull s) later
    else if r.low < s.low then r :: s :: later
    else s :: insertRange r later

def insert (s : CharSet) (r : CharRange) : CharSet :=
  ⟨insertRange r s.ranges⟩

def ofRanges (ranges : List CharRange) : CharSet :=
  ranges.foldl insert empty

def single (c : Char) : CharSet :=
  ⟨[⟨c, c⟩]⟩

def single? (s : CharSet) : Option Char :=
  match s.ranges with
  | [r] => if r.low == r.high then some r.low else none
  | _ => none

def union (s t : CharSet) : CharSet :=
  t.ranges.foldl insert s

def gapsAfter (r : CharRange) : List CharRange → List CharRange
  | [] => if r.high < lastChar then [⟨charAfter r.high, lastChar⟩] else []
  | s :: later => .between (charAfter r.high) (charBefore s.low) :: gapsAfter s later

/--
The characters that are not in a set. Where only the surrogates keep two stretches apart, the gap
between them counts as having their ends.
-/
def complement (s : CharSet) : CharSet :=
  match s.ranges with
  | [] => full
  | r :: later =>
    let first := if '\x00' < r.low then [⟨'\x00', charBefore r.low⟩] else []
    ⟨first ++ gapsAfter r later⟩

def intersection (s t : CharSet) : CharSet :=
  ⟨s.ranges.flatMap fun r => t.ranges.filterMap r.overlap?⟩

def difference (s t : CharSet) : CharSet :=
  ⟨s.ranges.flatMap fun r => t.ranges.foldl (fun pieces u => pieces.flatMap (·.without u)) [r]⟩

def symmetricDifference (s t : CharSet) : CharSet :=
  (s.union t).difference (s.intersection t)

def isAscii (s : CharSet) : Bool :=
  s.ranges.all (·.high < '\x80')

/-- The part of a set from `low` to `high`, moved so that it begins at `target`. -/
def moved (s : CharSet) (low high target : Char) : CharSet :=
  let move (c : Char) : Char := Char.ofNat (c.toNat - low.toNat + target.toNat)
  ⟨(s.intersection ⟨[⟨low, high⟩]⟩).ranges.map fun r => ⟨move r.low, move r.high⟩⟩

def anyCase (s : CharSet) : CharSet :=
  (s.union (s.moved 'a' 'z' 'A')).union (s.moved 'A' 'Z' 'a')

def allBut (cs : List Char) : CharSet :=
  (ofRanges (cs.map fun c => ⟨c, c⟩)).complement

end CharSet

inductive AsciiClass where
  | alnum
  | alpha
  | ascii
  | blank
  | cntrl
  | digit
  | graph
  | lower
  | print
  | punct
  | space
  | upper
  | word
  | xdigit
deriving DecidableEq, Repr

namespace AsciiClass

def ofName? : String → Option AsciiClass
  | "alnum" => some alnum
  | "alpha" => some alpha
  | "ascii" => some ascii
  | "blank" => some blank
  | "cntrl" => some cntrl
  | "digit" => some digit
  | "graph" => some graph
  | "lower" => some lower
  | "print" => some print
  | "punct" => some punct
  | "space" => some space
  | "upper" => some upper
  | "word" => some word
  | "xdigit" => some xdigit
  | _ => none

def toSet : AsciiClass → CharSet
  | alnum => ⟨[⟨'0', '9'⟩, ⟨'A', 'Z'⟩, ⟨'a', 'z'⟩]⟩
  | alpha => ⟨[⟨'A', 'Z'⟩, ⟨'a', 'z'⟩]⟩
  | ascii => ⟨[⟨'\x00', '\x7f'⟩]⟩
  | blank => ⟨[⟨'\t', '\t'⟩, ⟨' ', ' '⟩]⟩
  | cntrl => ⟨[⟨'\x00', '\x1f'⟩, ⟨'\x7f', '\x7f'⟩]⟩
  | digit => ⟨[⟨'0', '9'⟩]⟩
  | graph => ⟨[⟨'!', '~'⟩]⟩
  | lower => ⟨[⟨'a', 'z'⟩]⟩
  | print => ⟨[⟨' ', '~'⟩]⟩
  | punct => ⟨[⟨'!', '/'⟩, ⟨':', '@'⟩, ⟨'[', '\x60'⟩, ⟨'\x7b', '~'⟩]⟩
  | space => ⟨[⟨'\t', '\r'⟩, ⟨' ', ' '⟩]⟩
  | upper => ⟨[⟨'A', 'Z'⟩]⟩
  | word => ⟨[⟨'0', '9'⟩, ⟨'A', 'Z'⟩, ⟨'_', '_'⟩, ⟨'a', 'z'⟩]⟩
  | xdigit => ⟨[⟨'0', '9'⟩, ⟨'A', 'F'⟩, ⟨'a', 'f'⟩]⟩

end AsciiClass

end ReefRover
