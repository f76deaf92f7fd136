import ReefRover.Decimal.Digits
import ReefRover.Decimal.Shortest

/-!
This module contains numerals, the written form of numbers: digits, perhaps a fraction, perhaps a
power of ten. It says which numeral stands for a floating-point number, and which number is read
from a numeral.
-/

namespace ReefRover

/--
A written number. There is a point exactly if there are fraction digits, and a power of ten exactly
if there is an exponent.
-/
structure Numeral where
  negative : Bool := false
  whole : List Digit
  fraction : List Digit := []
  exponent : Option Int := none
deriving DecidableEq, Repr

namespace Numeral

def ofNat (n : Nat) : Numeral :=
  { whole := Digits.ofNat n }

def toChars (n : Numeral) : List Char :=
  let sign := if n.negative then ['-'] else []
  let fraction := if n.fraction.isEmpty then [] else '.' :: Digits.toChars n.fraction
  let exponent :=
    match n.exponent with
    | none => []
    | some e => 'e' :: (if e < 0 then '-' else '+') :: Digits.toChars (Digits.ofNat e.natAbs)
  sign ++ Digits.toChars n.whole ++ fraction ++ exponent

def toString (n : Numeral) : String :=
  String.ofList n.toChars

/--
How floating-point numbers are written. A number `d.ddd * 10 ^ e` is written without a power of ten
for `e` from `least` to `most`, and then always with a fraction.
-/
structure Style where
  least : Int
  most : Int

/-- Single precision goes without a power of ten from a millionth to below ten to the 13th. -/
def singleStyle : Style := ⟨-6, 12⟩

/--
Double precision goes without a power of ten from a hundred-thousandth to below ten to the 16th.
-/
def doubleStyle : Style := ⟨-5, 15⟩

def ofDecimal (style : Style) (negative : Bool) (d : Decimal) : Numeral :=
  let digits := Digits.ofNat d.significand
  let e := d.exponent + digits.length - 1
  if style.least ≤ e ∧ e ≤ style.most then
    if d.exponent ≥ 0 then
      { negative, whole := digits ++ List.replicate d.exponent.toNat (Digit.ofNat 0),
        fraction := [Digit.ofNat 0] }
    else if e ≥ 0 then
      { negative, whole := digits.take (e.toNat + 1), fraction := digits.drop (e.toNat + 1) }
    else
      { negative, whole := [Digit.ofNat 0],
        fraction := List.replicate (-e - 1).toNat (Digit.ofNat 0) ++ digits }
  else
    { negative, whole := digits.take 1, fraction := digits.drop 1, exponent := some e }

/-- The numeral of a number in single precision; infinities and undefined numbers have none. -/
def ofSingle? (x : Float32) : Option Numeral :=
  if x.isFinite then
    some <|
      if x == 0 then
        { negative := (Binary.ofSingle x).negative, whole := [Digit.ofNat 0],
          fraction := [Digit.ofNat 0] }
      else
        ofDecimal singleStyle (Binary.ofSingle x).negative (Readback.ofSingle x).shortest
  else
    none

def ofDouble? (x : Float) : Option Numeral :=
  if x.isFinite then
    some <|
      if x == 0 then
        { negative := (Binary.ofDouble x).negative, whole := [Digit.ofNat 0],
          fraction := [Digit.ofNat 0] }
      else
        ofDecimal doubleStyle (Binary.ofDouble x).negative (Readback.ofDouble x).shortest
  else
    none

inductive Number where
  | unsigned (n : UInt64)
  /-- A negative whole number no less than `-2 ^ 63`, given by its magnitude. -/
  | negative (magnitude : UInt64)
  | double (x : Float)

def significandLimit : Nat := Nat.pow 2 64 - 1

/-- Appends digits to a significand as long as it fits. Gives the digits that were left over. -/
def absorb : Nat → List Digit → Nat × List Digit
  | significand, [] => (significand, [])
  | significand, d :: digits =>
    if 10 * significand + d.val ≤ significandLimit then
      absorb (10 * significand + d.val) digits
    else
      (significand, d :: digits)

def powerOfTen (k : Nat) : Float :=
  Float.ofScientific 1 false k

/--
A double times a power of ten, in one rounding where the power is a double. Smaller powers are
divided out in parts, after `parts` of which nothing is left of any double; a result beyond the
doubles is refused.
-/
def scale? : (parts : Nat) → Float → Int → Option Float
  | 0, _, _ => some 0
  | parts + 1, x, e =>
    if e.natAbs ≤ 308 then
      if e ≥ 0 then
        let y := x * powerOfTen e.natAbs
        if y.isInf then none else some y
      else
        some (x / powerOfTen e.natAbs)
    else if x == 0 then
      some x
    else if e ≥ 0 then
      none
    else
      scale? parts (x / powerOfTen 308) (e + 308)

/--
The double read from a numeral. Digits are taken into a significand of 64 bits as long as they
fit, first those before the point and then those after it; further digits count by their place
alone. The significand and the power of ten are then combined in double precision.
-/
def double? (n : Numeral) : Option Float := do
  let (significand, skipped) := absorb 0 n.whole
  let (significand, ignored) := absorb significand n.fraction
  let taken := n.fraction.length - ignored.length
  let exponent := (skipped.length : Int) - taken + n.exponent.getD 0
  let magnitude ← scale? 5 significand.toUInt64.toFloat exponent
  return if n.negative then -magnitude else magnitude

def number? (n : Numeral) : Option Number :=
  let size := Digits.toNat n.whole
  if n.fraction.isEmpty && n.exponent.isNone then
    if !n.negative && decide (size < Nat.pow 2 64) then
      some (.unsigned size.toUInt64)
    else if n.negative && decide (0 < size) && decide (size ≤ Nat.pow 2 63) then
      some (.negative size.toUInt64)
    else
      n.double?.map .double
  else
    n.double?.map .double

end Numeral

end ReefRover
