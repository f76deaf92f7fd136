import ReefRover.Binary

/-!
This module contains the shortest decimal of a floating-point number: of all decimals that read
back as the number, one on the coarsest grid of powers of ten, and of those the nearest.
-/

namespace ReefRover

structure Decimal where
  significand : Nat
  exponent : Int
deriving DecidableEq, Repr

/--
The decimals that read back as a positive number: those from `low` to `high`, ends included on
request. All numbers are counted in units of `2 ^ exponent`.
-/
structure Readback where
  low : Nat
  value : Nat
  high : Nat
  exponent : Int
  closed : Bool

namespace Readback

/--
The halfway points to the neighbours of `m * 2 ^ e`. Below a power of two the neighbours are twice
as close, and the ends belong to the number with the even significand.
-/
def ofBinary (m : Nat) (e : Int) (atPower : Bool) : Readback :=
  { low := if atPower then 4 * m - 1 else 4 * m - 2
    value := 4 * m
    high := 4 * m + 2
    exponent := e - 2
    closed := m % 2 == 0 }

def ofSingle (x : Float32) : Readback :=
  let b := Binary.ofSingle x
  ofBinary b.significand b.exponent (b.significand == Nat.pow 2 23 && b.exponent != -149)

def ofDouble (x : Float) : Readback :=
  let b := Binary.ofDouble x
  ofBinary b.significand b.exponent (b.significand == Nat.pow 2 52 && b.exponent != -1074)

/--
The multiple of `10 ^ k` that reads back, if there is one; of two the nearer, and in a tie the
even one.
-/
def onGrid? (r : Readback) (k : Int) : Option Nat :=
  let scale := Nat.pow 2 r.exponent.toNat * Nat.pow 10 (-k).toNat
  let step := Nat.pow 2 (-r.exponent).toNat * Nat.pow 10 k.toNat
  let reads (q : Nat) : Bool :=
    if r.closed then
      decide (r.low * scale ≤ q * step) && decide (q * step ≤ r.high * scale)
    else
      decide (r.low * scale < q * step) && decide (q * step < r.high * scale)
  let q := r.value * scale / step
  let below := r.value * scale - q * step
  let above := (q + 1) * step - r.value * scale
  match reads q, reads (q + 1) with
  | true, true =>
    some (if below < above then q else if above < below then q + 1 else q + q % 2)
  | true, false => some q
  | false, true => some (q + 1)
  | false, false => none

/-- The decimal on the first of `count` grids, from `10 ^ k` downward, that has one. -/
def firstGrid (r : Readback) : (count : Nat) → (k : Int) → Decimal
  | 0, k => { significand := 0, exponent := k }
  | count + 1, k =>
    match r.onGrid? k with
    | some q => { significand := q, exponent := k }
    | none => r.firstGrid count (k - 1)

/-- The shortest decimal. The search starts above the number and ends after `2 ^ 64` in size. -/
def shortest (r : Readback) : Decimal :=
  r.firstGrid 24 ((r.exponent + r.high.log2 + 1) * 30103 / 100000 + 1)

end Readback

end ReefRover
