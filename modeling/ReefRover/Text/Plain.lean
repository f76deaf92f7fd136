/-!
This module contains the plain form of a text: what is left without the sequences that control a
terminal. A sequence begins with an escape character. What comes next tells its kind, and the kind
tells where it ends.
-/

namespace ReefRover

namespace Text

def escape : Char := '\x1b'

def isLayoutControl (c : Char) : Bool :=
  c == '\t' || c == '\n' || c == '\x0c' || c == '\r'

inductive HeaderPart where
  | start
  /-- Digits, which may be told apart by `;`. The first one may also be a mark from `<` on. -/
  | parameters
  | marks
deriving DecidableEq, Repr

inductive OpenSequence where
  | none
  | begun
  /-- A sequence with intermediate characters, which ends at the first other one. -/
  | marked
  /-- A sequence with parameters, which ends at the first character from `@` on. -/
  | parameters
  /-- A title, which ends at a bell. -/
  | title
  /-- The header of a control string, up to the first character from `@` on. -/
  | header (part : HeaderPart)
  /-- A control string, which ends at a string terminator. -/
  | string
deriving DecidableEq, Repr

namespace OpenSequence

def ofIntroducer (c : Char) : OpenSequence :=
  if c < ' ' || '\x7f' ≤ c then
    begun
  else if c ≤ '/' then
    marked
  else
    match c with
    | '[' => parameters
    | ']' => title
    | 'P' => header .start
    | 'X' | '^' | '_' => string
    | _ => none

/--
What a character makes of the header of a control string. One that does not fit there ends the
header; what is no such character is passed over.
-/
def afterHeader (part : HeaderPart) (c : Char) : OpenSequence :=
  if '@' ≤ c && c ≤ '~' then
    string
  else if ' ' ≤ c && c ≤ '/' then
    header .marks
  else if '0' ≤ c && c ≤ '?' then
    match part with
    | .start => if c == ':' then string else header .parameters
    | .parameters => if c.isDigit || c == ';' then header .parameters else string
    | .marks => string
  else
    header part

/--
What is open after a character. An escape character drops what is open and begins anew, a cancel
or substitute character drops it. A string terminator is a byte `0x9c`, which also stands within
the encoding of other characters.
-/
def next (s : OpenSequence) (c : Char) : OpenSequence :=
  if c == escape then
    begun
  else if c == '\x18' || c == '\x1a' then
    none
  else
    match s with
    | none => none
    | begun => ofIntroducer c
    | marked => if '0' ≤ c && c ≤ '~' then none else marked
    | parameters => if '@' ≤ c && c ≤ '~' then none else parameters
    | title => if c == '\x07' then none else title
    | header part => afterHeader part c
    | string => if (String.utf8EncodeChar c).contains 0x9c then none else string

/--
Whether a character shows. Of the characters of a sequence none does, except those that lay out
the text where the sequence is no string.
-/
def shows (s : OpenSequence) (c : Char) : Bool :=
  match s with
  | none => (' ' ≤ c && c != '\x7f') || isLayoutControl c
  | begun | marked | parameters => isLayoutControl c
  | title | header _ | string => false

end OpenSequence

structure PlainReader where
  sequence : OpenSequence := .none
  /--
  Whether the last character showed. If it did within a sequence, the sequence rests until a
  character comes that would not show outside of it.
  -/
  showing : Bool := false

namespace PlainReader

def read (r : PlainReader) (c : Char) : Bool × PlainReader :=
  if r.showing && OpenSequence.none.shows c then
    (true, if c < '\x80' then r else {})
  else
    let shown := r.sequence.shows c
    (shown, { sequence := r.sequence.next c, showing := shown })

def plain : PlainReader → List Char → List Char
  | _, [] => []
  | r, c :: later =>
    let (shown, r) := r.read c
    if shown then c :: r.plain later else r.plain later

end PlainReader

def plain (text : String) : String :=
  String.ofList (PlainReader.plain {} text.toList)

end Text

end ReefRover
