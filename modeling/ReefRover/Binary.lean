/-!
This module contains the exact contents of binary floating-point numbers: every finite number is a
sign, a whole significand and a power of two. Conversions between the two precisions and the
remainder of a division are defined through it, each rounded once.
-/

namespace ReefRover

/-- The number `± significand * 2 ^ exponent`. -/
structure Binary where
  negative : Bool
  significand : Nat
  exponent : Int
deriving DecidableEq, Repr

namespace Binary

def ofSingle (x : Float32) : Binary :=
  let bits := x.toBits.toNat
  let biased : Nat := bits / Nat.pow 2 23 % Nat.pow 2 8
  let fraction := bits % Nat.pow 2 23
  { negative := bits / Nat.pow 2 31 == 1
    significand := if biased = 0 then fraction else fraction + Nat.pow 2 23
    exponent := if biased = 0 then -149 else (biased : Int) - 150 }

def ofDouble (x : Float) : Binary :=
  let bits := x.toBits.toNat
  let biased : Nat := bits / Nat.pow 2 52 % Nat.pow 2 11
  let fraction := bits % Nat.pow 2 52
  { negative := bits / Nat.pow 2 63 == 1
    significand := if biased = 0 then fraction else fraction + Nat.pow 2 52
    exponent := if biased = 0 then -1074 else (biased : Int) - 1075 }

/--
The number nearest to `x` in single precision, an even significand in a tie, and infinity beyond
the largest one. A power `2 ^ (-k)` is read as the decimal fraction `5 ^ k / 10 ^ k`.
-/
def toSingle (x : Binary) : Float32 :=
  let magnitude :=
    match x.exponent with
    | .ofNat e => Float32.ofScientific (x.significand * Nat.pow 2 e) false 0
    | .negSucc e => Float32.ofScientific (x.significand * Nat.pow 5 (e + 1)) true (e + 1)
  if x.negative then -magnitude else magnitude

def toDouble (x : Binary) : Float :=
  let magnitude :=
    match x.exponent with
    | .ofNat e => Float.ofScientific (x.significand * Nat.pow 2 e) false 0
    | .negSucc e => Float.ofScientific (x.significand * Nat.pow 5 (e + 1)) true (e + 1)
  if x.negative then -magnitude else magnitude

/-- The remainder of the magnitude of `x` by that of `y`, with the sign of `x`. -/
def rem (x y : Binary) : Binary :=
  let e := min x.exponent y.exponent
  let a := x.significand * Nat.pow 2 (x.exponent - e).toNat
  let b := y.significand * Nat.pow 2 (y.exponent - e).toNat
  { negative := x.negative, significand := a % b, exponent := e }

end Binary

def narrow (x : Float) : Float32 :=
  if x.isNaN then
    Float32.ofBits 0x7fc00000
  else if x.isInf then
    if x < 0 then Float32.ofBits 0xff800000 else Float32.ofBits 0x7f800000
  else
    (Binary.ofDouble x).toSingle

def widen (x : Float32) : Float :=
  if x.isNaN then
    Float.ofBits 0x7ff8000000000000
  else if x.isInf then
    if x < 0 then Float.ofBits 0xfff0000000000000 else Float.ofBits 0x7ff0000000000000
  else
    (Binary.ofSingle x).toDouble

/-- The remainder of `x` by `y` in single precision. It is exact, since it fits the format. -/
def remainder (x y : Float32) : Float32 :=
  if x.isNaN || y.isNaN || x.isInf || y == 0 then
    Float32.ofBits 0x7fc00000
  else if x.abs < y.abs then
    x
  else
    ((Binary.ofSingle x).rem (Binary.ofSingle y)).toSingle

end ReefRover
