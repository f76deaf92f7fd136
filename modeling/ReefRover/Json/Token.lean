import ReefRover.Decimal.Numeral

/-!
This module contains the tokens of JSON. The lexer takes one character at a time; where the
characters stop making tokens it leaves a `bad` token, and nothing after that is looked at.
-/

namespace ReefRover

namespace Json

inductive Token where
  | openArr
  | closeArr
  | openObj
  | closeObj
  | colon
  | comma
  | null
  | bool (value : Bool)
  | num (literal : Numeral)
  | str (text : String)
  | unpaired
  | bad
deriving DecidableEq, Repr

inductive NumberPart where
  | sign
  | zero
  | whole
  | point
  | fraction
  | exponentMark
  | exponentSign
  | exponent
deriving DecidableEq, Repr

/-- A number being read. Digits are collected in reverse. -/
structure NumberDraft where
  part : NumberPart
  negative : Bool := false
  whole : List Digit := []
  fraction : List Digit := []
  exponentNegative : Bool := false
  exponent : List Digit := []
deriving DecidableEq, Repr

namespace NumberDraft

def push? (n : NumberDraft) (c : Char) : Option NumberDraft :=
  match n.part, Digit.ofChar? c with
  | .sign, some d =>
    some { n with part := if d = Digit.ofNat 0 then .zero else .whole, whole := [d] }
  | .whole, some d => some { n with whole := d :: n.whole }
  | .point, some d | .fraction, some d =>
    some { n with part := .fraction, fraction := d :: n.fraction }
  | .exponentMark, some d | .exponentSign, some d | .exponent, some d =>
    some { n with part := .exponent, exponent := d :: n.exponent }
  | .zero, some _ => none
  | part, none =>
    match part, c with
    | .zero, '.' | .whole, '.' => some { n with part := .point }
    | .zero, 'e' | .zero, 'E' | .whole, 'e' | .whole, 'E' | .fraction, 'e' | .fraction, 'E' =>
      some { n with part := .exponentMark }
    | .exponentMark, '+' => some { n with part := .exponentSign }
    | .exponentMark, '-' => some { n with part := .exponentSign, exponentNegative := true }
    | _, _ => none

def numeral? (n : NumberDraft) : Option Numeral :=
  let exponent : Int := Digits.toNat n.exponent.reverse
  let literal : Numeral :=
    { negative := n.negative, whole := n.whole.reverse, fraction := n.fraction.reverse }
  match n.part with
  | .zero | .whole | .fraction => some literal
  | .exponent =>
    some { literal with exponent := some (if n.exponentNegative then -exponent else exponent) }
  | .sign | .point | .exponentMark | .exponentSign => none

end NumberDraft

inductive StringPart where
  | text
  | escape
  | unicode (digitsLeft : Nat) (code : Nat)
deriving DecidableEq, Repr

structure StringDraft where
  part : StringPart := .text
  chars : List Char := []
  /-- A leading surrogate whose partner has to follow at once. -/
  leading : Option Nat := none
  unpaired : Bool := false
deriving DecidableEq, Repr

namespace StringDraft

/-- Takes a character of the string's text. It is no partner of a leading surrogate. -/
def take (s : StringDraft) (c : Char) : StringDraft :=
  { s with
    part := .text
    chars := c :: s.chars
    leading := none
    unpaired := s.unpaired || s.leading.isSome }

def takeUnit (s : StringDraft) (code : Nat) : StringDraft :=
  if 0xd800 ≤ code ∧ code < 0xdc00 then
    { s with part := .text, leading := some code, unpaired := s.unpaired || s.leading.isSome }
  else if 0xdc00 ≤ code ∧ code < 0xe000 then
    match s.leading with
    | some high =>
      let c := Char.ofNat (0x10000 + (high - 0xd800) * 0x400 + (code - 0xdc00))
      { s with part := .text, chars := c :: s.chars, leading := none }
    | none => { s with part := .text, unpaired := true }
  else
    s.take (Char.ofNat code)

def escaped? : Char → Option Char
  | '"' => some '"'
  | '\\' => some '\\'
  | '/' => some '/'
  | 'b' => some '\x08'
  | 'f' => some '\x0c'
  | 'n' => some '\n'
  | 'r' => some '\r'
  | 't' => some '\t'
  | _ => none

def hexDigit? (c : Char) : Option Nat :=
  if '0' ≤ c ∧ c ≤ '9' then some (c.toNat - 48)
  else if 'a' ≤ c ∧ c ≤ 'f' then some (c.toNat - 87)
  else if 'A' ≤ c ∧ c ≤ 'F' then some (c.toNat - 55)
  else none

def push? (s : StringDraft) (c : Char) : Option StringDraft :=
  match s.part with
  | .text =>
    if c = '\\' then some { s with part := .escape }
    else if c.toNat < 0x20 then none
    else some (s.take c)
  | .escape =>
    if c = 'u' then some { s with part := .unicode 4 0 } else (escaped? c).map s.take
  | .unicode digitsLeft code =>
    (hexDigit? c).map fun d =>
      let code := 16 * code + d
      if digitsLeft ≤ 1 then s.takeUnit code
      else { s with part := .unicode (digitsLeft - 1) code }

def token (s : StringDraft) : Token :=
  if s.unpaired || s.leading.isSome then .unpaired else .str (String.ofList s.chars.reverse)

end StringDraft

inductive LexState where
  | between
  | number (n : NumberDraft)
  | string (s : StringDraft)
  /-- A word, of which a character and some later ones are still to come. -/
  | word (next : Char) (later : List Char) (token : Token)
  | stopped
deriving DecidableEq, Repr

def isBlank (c : Char) : Bool :=
  c == ' ' || c == '\t' || c == '\n' || c == '\r'

abbrev LexStep := List Token × LexState

namespace LexStep

def stop : LexStep :=
  ([.bad], .stopped)

def begin (c : Char) : LexStep :=
  match c with
  | '[' => ([.openArr], .between)
  | ']' => ([.closeArr], .between)
  | '\x7b' => ([.openObj], .between)
  | '\x7d' => ([.closeObj], .between)
  | ':' => ([.colon], .between)
  | ',' => ([.comma], .between)
  | '"' => ([], .string {})
  | 'n' => ([], .word 'u' ['l', 'l'] .null)
  | 't' => ([], .word 'r' ['u', 'e'] (.bool true))
  | 'f' => ([], .word 'a' ['l', 's', 'e'] (.bool false))
  | '-' => ([], .number { part := .sign, negative := true })
  | c =>
    if isBlank c then
      ([], .between)
    else
      match NumberDraft.push? { part := .sign } c with
      | some n => ([], .number n)
      | none => stop

def afterNumber (n : NumberDraft) (c : Char) : LexStep :=
  match n.numeral? with
  | some literal =>
    -- after `0` a digit continues no number and begins none
    if n.part = .zero ∧ c.isDigit then
      stop
    else
      let (tokens, state) := begin c
      (.num literal :: tokens, state)
  | none => stop

end LexStep

namespace LexState

def push (state : LexState) (c : Char) : LexStep :=
  match state with
  | .between => .begin c
  | .number n =>
    match n.push? c with
    | some n => ([], .number n)
    | none => .afterNumber n c
  | .string s =>
    if s.part = .text ∧ c = '"' then
      ([s.token], .between)
    else
      match s.push? c with
      | some s => ([], .string s)
      | none => .stop
  | .word next later token =>
    if c = next then
      match later with
      | [] => ([token], .between)
      | next :: later => ([], .word next later token)
    else
      .stop
  | .stopped => ([], .stopped)

def finish : LexState → List Token
  | .between | .stopped => []
  | .number n =>
    match n.numeral? with
    | some literal => [.num literal]
    | none => [.bad]
  | .string _ | .word .. => [.bad]

def tokens (state : LexState) : List Char → List Token
  | [] => state.finish
  | c :: text =>
    let (completed, state) := state.push c
    completed ++ state.tokens text

end LexState

def lex (text : List Char) : List Token :=
  LexState.between.tokens text

end Json

end ReefRover
