import ReefRover.Pattern.Notation.Meaning
import ReefRover.Pattern.Notation.Read
import ReefRover.Pattern.Size

/-!
This module contains which texts give a pattern to search for: those that are written without
fault, whose parts have a meaning, and whose machines are not too large.
-/

namespace ReefRover

inductive PatternError where
  | fault (text : String) (e : Pattern.NotationError)
  | anyWord
  | tooLarge
deriving DecidableEq, Repr

namespace PatternError

def message : PatternError → String
  | fault text e => e.message text
  | anyWord => "error building NFA"
  | tooLarge => s!"Compiled regex exceeds size limit of {Pattern.sizeLimit} bytes."

end PatternError

namespace Pattern

/-- The pattern that a text denotes. Of several reasons why there is none the first one counts. -/
def ofText (text : String) : Except PatternError Pattern := do
  let written ← (Notation.ofText text).mapError (.fault text)
  let (p, _) ← (written.meaning {}).mapError (.fault text)
  if p.isTooLarge .forward then .error .tooLarge
  else if p.asksAnyWord then .error .anyWord
  else if p.isTooLarge .backward then .error .tooLarge
  else return p

end Pattern

end ReefRover
