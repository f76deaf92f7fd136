import ReefRover.Text.Span

/-!
This module contains what can be wrong with a written pattern, and how it is told with pointers at
the part of the text that is at fault.
-/

namespace ReefRover

namespace Pattern

open Text (Span)

inductive Fault where
  | escapeAtEnd
  | unknownEscape
  | backreference
  | noHexDigit
  | emptyHex
  | noCharacter
  | badPropertyName
  | unclosedSet
  | escapeInSet
  | rangeOfSets
  | reversedRange
  | nothingToRepeat
  | unclosedCount
  | noCount
  | countTooLarge
  | reversedCount
  | unclosedEdgeOrCount
  | unclosedEdge
  | unknownEdge
  | unclosedGroup
  | unopenedGroup
  | lookAround
  | unclosedName
  | emptyName
  | badName
  | repeatedName
  | flagsAtEnd
  | unknownFlag
  | repeatedFlag
  | repeatedNegation
  | danglingNegation
  | tooDeep (limit : Nat)
  /-- What is asked for may be bytes that encode no character. -/
  | noText
  /-- Other characters than ASCII are asked for where a flag rules them out. -/
  | onlyAscii
  /-- The cases of letters are only known of ASCII. -/
  | casesUnknown
  /-- Digits, blanks and characters of words are only known of ASCII. -/
  | kindUnknown
  | propertyUnknown
  | propertyValueUnknown
deriving DecidableEq, Repr

namespace Fault

def message : Fault → String
  | escapeAtEnd => "incomplete escape sequence, reached end of pattern prematurely"
  | unknownEscape => "unrecognized escape sequence"
  | backreference => "backreferences are not supported"
  | noHexDigit => "invalid hexadecimal digit"
  | emptyHex => "hexadecimal literal empty"
  | noCharacter => "hexadecimal literal is not a Unicode scalar value"
  | badPropertyName => "invalid Unicode character class"
  | unclosedSet => "unclosed character class"
  | escapeInSet => "invalid escape sequence found in character class"
  | rangeOfSets => "invalid range boundary, must be a literal"
  | reversedRange => "invalid character class range, the start must be <= the end"
  | nothingToRepeat => "repetition operator missing expression"
  | unclosedCount => "unclosed counted repetition"
  | noCount => "repetition quantifier expects a valid decimal"
  | countTooLarge => "decimal literal invalid"
  | reversedCount => "invalid repetition count range, the start must be <= the end"
  | unclosedEdgeOrCount =>
    "found either the beginning of a special word boundary or a bounded repetition on a \\b with "
      ++ "an opening brace, but no closing brace"
  | unclosedEdge =>
    "special word boundary assertion is either unclosed or contains an invalid character"
  | unknownEdge =>
    "unrecognized special word boundary assertion, valid choices are: start, end, start-half or "
      ++ "end-half"
  | unclosedGroup => "unclosed group"
  | unopenedGroup => "unopened group"
  | lookAround => "look-around, including look-ahead and look-behind, is not supported"
  | unclosedName => "unclosed capture group name"
  | emptyName => "empty capture group name"
  | badName => "invalid capture group character"
  | repeatedName => "duplicate capture group name"
  | flagsAtEnd => "expected flag but got end of regex"
  | unknownFlag => "unrecognized flag"
  | repeatedFlag => "duplicate flag"
  | repeatedNegation => "flag negation operator repeated"
  | danglingNegation => "dangling flag negation operator"
  | tooDeep limit => s!"exceed the maximum number of nested parentheses/brackets ({limit})"
  | noText => "pattern can match invalid UTF-8"
  | onlyAscii => "Unicode not allowed here"
  | casesUnknown =>
    "Unicode-aware case insensitivity matching is not available (make sure the unicode-case "
      ++ "feature is enabled)"
  | kindUnknown =>
    "Unicode-aware Perl class not found (make sure the unicode-perl feature is enabled)"
  | propertyUnknown => "Unicode property not found"
  | propertyValueUnknown => "Unicode property value not found"

end Fault

structure NotationError where
  fault : Fault
  span : Span
  earlier : Option Span := none
deriving DecidableEq, Repr

namespace NotationError

/-- What stands around a text of several lines. -/
def divider : String :=
  Text.filled '~' 79 ++ "\n"

def message (e : NotationError) (text : String) : String :=
  let parts := e.span :: e.earlier.toList
  let pointed := Text.pointedAt text parts
  let shown :=
    if text.contains '\n' then
      let long := (parts.filter (!·.isWithinLine)).mergeSort Span.precedes
      divider ++ pointed ++ divider ++ String.join (long.map (·.describe ++ "\n"))
    else
      pointed
  "regex parse error:\n" ++ shown ++ "error: " ++ e.fault.message

end NotationError

end Pattern

end ReefRover
