import ReefRover.Pattern.Notation.Basic
import ReefRover.Pattern.Notation.Fault

/-!
This module contains what written patterns mean. Flags say how their parts are understood. Of
characters of all scripts neither their cases nor their kinds and properties are known, so a part
that asks for them has no meaning.
-/

namespace ReefRover

namespace Pattern

open Text (Span)

structure Flags where
  anyCase : Bool := false
  lines : Bool := false
  dotAll : Bool := false
  lazily : Bool := false
  scripts : Bool := true
  returns : Bool := false
deriving DecidableEq, Repr

namespace Flags

def set (flags : Flags) (value : Bool) : Flag → Flags
  | .anyCase => { flags with anyCase := value }
  | .lines => { flags with lines := value }
  | .dotAll => { flags with dotAll := value }
  | .lazily => { flags with lazily := value }
  | .scripts => { flags with scripts := value }
  | .returns => { flags with returns := value }
  | .spaced => flags

def change (flags : Flags) (changes : FlagChanges) : Flags :=
  changes.foldl (fun flags (flag, value) => flags.set value flag) flags

end Flags

abbrev Attempt := Except NotationError

def refuse {α : Type} (fault : Fault) (span : Span) : Attempt α :=
  .error { fault, span }

/-! ### Sets -/

structure Members where
  set : CharSet := .empty
  hasCases : Bool := true
deriving DecidableEq, Repr

namespace Members

def ofSet (set : CharSet) : Members :=
  { set, hasCases := set.isEmpty }

def insert (m : Members) (r : CharRange) : Members :=
  { set := m.set.insert r, hasCases := false }

def union (m n : Members) : Members :=
  if n.set.isEmpty || m.set == n.set then m
  else { set := m.set.union n.set, hasCases := m.hasCases && n.hasCases }

def intersection (m n : Members) : Members :=
  if m.set.isEmpty then m
  else if n.set.isEmpty then {}
  else { set := m.set.intersection n.set, hasCases := m.hasCases && n.hasCases }

def difference (m n : Members) : Members :=
  if m.set.isEmpty || n.set.isEmpty then m
  else { set := m.set.difference n.set, hasCases := m.hasCases && n.hasCases }

def symmetricDifference (m n : Members) : Members :=
  (m.union n).difference (m.intersection n)

def complement (m : Members) : Members :=
  { set := m.set.complement, hasCases := m.hasCases || m.set.isEmpty }

def operate (m n : Members) : SetOperation → Members
  | .intersection => m.intersection n
  | .difference => m.difference n
  | .symmetricDifference => m.symmetricDifference n

def withCases (m : Members) (flags : Flags) (span : Span) : Attempt Members :=
  if !flags.anyCase then .ok m
  else if !flags.scripts then .ok { set := m.set.anyCase }
  else if m.hasCases || m.set.isEmpty then .ok { m with hasCases := true }
  else refuse .casesUnknown span

def complete (m : Members) (flags : Flags) (span : Span) (negated : Bool) : Attempt Members := do
  let m ← m.withCases flags span
  let m := if negated then m.complement else m
  if flags.scripts || m.set.isAscii then .ok m else refuse .noText span

end Members

namespace Letter

/-- The character that a letter stands for. A byte is one only if it is ASCII. -/
def meaning (letter : Letter) (flags : Flags) : Attempt Char :=
  if !flags.scripts && letter.isByte && '\x7f' < letter.char then refuse .noText letter.span
  else .ok letter.char

/-- The character as a member of a set, which has to be ASCII where sets have no others. -/
def member (letter : Letter) (flags : Flags) : Attempt Char := do
  let c ← letter.meaning flags
  if flags.scripts || c ≤ '\x7f' then .ok c else refuse .onlyAscii letter.span

end Letter

def kindSet (flags : Flags) (span : Span) (negated : Bool) (name : AsciiClass) : Attempt CharSet :=
  if flags.scripts then refuse .kindUnknown span
  else if negated then refuse .noText span
  else .ok name.toSet

namespace PropertyName

/-- A name without case, blanks, what is not ASCII, and an `is` before it. -/
def normalized (name : PropertyName) : String :=
  let letters := name.text.toList.map Char.toLower
  let letters := if ['i', 's'].isPrefixOf letters then letters.drop 2 else letters
  String.ofList (letters.filter fun c => c < '\x80' && c != ' ' && c != '_' && c != '-')

/-- No property is known; of some names it is known that they are values of a property. -/
def meaning (name : PropertyName) (flags : Flags) (span : Span) : Attempt CharSet :=
  if !flags.scripts then refuse .onlyAscii span
  else if !name.hasValue && ["cf", "sc", "lc"].contains name.normalized then
    refuse .propertyValueUnknown span
  else refuse .propertyUnknown span

end PropertyName

namespace SetNotation

mutual

def addTo (flags : Flags) (m : Members) : SetNotation → Attempt Members
  | empty _ => .ok m
  | char letter => do
    let c ← letter.member flags
    return m.insert ⟨c, c⟩
  | range _ low high => do
    let low ← low.member flags
    return m.insert ⟨low, ← high.member flags⟩
  | ascii span negated name => do
    return m.union (← (Members.ofSet name.toSet).complete flags span negated)
  | kind span negated name => do
    return m.union (.ofSet (← kindSet flags span negated name))
  | property span _ name => do
    return m.union (.ofSet (← name.meaning flags span))
  | bracket span negated body => do
    return m.union (← (← body.addTo flags {}).complete flags span negated)
  | union _ members => addAllTo flags m members
  | operation _ op lhs rhs => do
    let left ← lhs.addTo flags {}
    let right ← rhs.addTo flags {}
    let right ← right.withCases flags rhs.span
    let left ← left.withCases flags lhs.span
    return m.union (left.operate right op)

def addAllTo (flags : Flags) (m : Members) : List SetNotation → Attempt Members
  | [] => .ok m
  | member :: members => do addAllTo flags (← member.addTo flags m) members

end

end SetNotation

/-! ### Patterns -/

namespace Flags

def letter (flags : Flags) (letter : Letter) : Attempt Pattern := do
  let c ← letter.meaning flags
  if !flags.anyCase then return one (.single c)
  else if flags.scripts then refuse .casesUnknown letter.span
  else return one (CharSet.single c).anyCase

def dot (flags : Flags) (span : Span) : Attempt Pattern :=
  if !flags.scripts then refuse .noText span
  else if flags.dotAll then .ok (one .full)
  else .ok (one (.allBut (if flags.returns then ['\n', '\r'] else ['\n'])))

def lineBreak (flags : Flags) : LineBreak :=
  if flags.returns then .feedOrReturn else .feed

def boundary (flags : Flags) : Mark → Boundary
  | .textStart => .textStart
  | .textEnd => .textEnd
  | .lineStart => if flags.lines then .lineStart flags.lineBreak else .textStart
  | .lineEnd => if flags.lines then .lineEnd flags.lineBreak else .textEnd
  | .word edge => if flags.scripts then .anyWord edge else .word edge

end Flags

namespace Notation

mutual

def meaning (flags : Flags) : Notation → Attempt (Pattern × Flags)
  | empty _ => .ok (.empty, flags)
  | Notation.flags _ changes => .ok (.empty, flags.change changes)
  | char letter => return (← flags.letter letter, flags)
  | dot span => return (← flags.dot span, flags)
  | mark _ asked => .ok (.boundary (flags.boundary asked), flags)
  | kind span negated name => return (.one (← kindSet flags span negated name), flags)
  | property span _ name => return (.one (← name.meaning flags span), flags)
  | set span negated body => do
    let m ← (← body.addTo flags {}).complete flags span negated
    return (.one m.set, flags)
  | times _ least most lazily body => do
    let (p, flags) ← body.meaning flags
    return (p.repeated least most (lazily != flags.lazily), flags)
  | group _ (.numbered number) body => do
    let (p, _) ← body.meaning flags
    return (.group number p, flags)
  | group _ (.flags changes) body => do
    let (p, _) ← body.meaning (flags.change changes)
    return (p, flags)
  | either _ branches => do
    let (ps, flags) ← meanings flags branches
    return (.choice ps, flags)
  | seq _ items => do
    let (ps, flags) ← meanings flags items
    return (.concat ps, flags)

def meanings (flags : Flags) : List Notation → Attempt (List Pattern × Flags)
  | [] => .ok ([], flags)
  | item :: items => do
    let (p, flags) ← item.meaning flags
    let (ps, flags) ← meanings flags items
    return (p :: ps, flags)

end

end Notation

end Pattern

end ReefRover
