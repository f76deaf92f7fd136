import ReefRover.Scalar

/-!
This module contains the random numbers of the simulation: a permuted congruential generator with
64 bits of state. The same seed always gives the same numbers.
-/

namespace ReefRover

structure Generator where
  state : UInt64
  increment : UInt64
deriving DecidableEq, Repr

namespace Generator

def multiplier : UInt64 := 6364136223846793005

def rotateRight (x : UInt32) (n : UInt32) : UInt32 :=
  (x >>> (n % 32)) ||| (x <<< ((32 - n % 32) % 32))

/-- The word that a state gives: some of its high bits, rotated by the highest five. -/
def output (state : UInt64) : UInt32 :=
  rotateRight (((state >>> 18) ^^^ state) >>> 27).toUInt32 (state >>> 59).toUInt32

def spread (seed : UInt64) : UInt64 :=
  seed * multiplier + 11634580027462260723

def advance (g : Generator) : Generator :=
  { g with state := g.state * multiplier + g.increment }

def ofSeed (seed : UInt64) : Generator :=
  let s0 := spread seed
  let s1 := spread s0
  let s2 := spread s1
  let s3 := spread s2
  let join (low high : UInt64) : UInt64 :=
    (output low).toUInt64 ||| ((output high).toUInt64 <<< 32)
  let increment := join s2 s3 ||| 1
  advance { state := join s0 s1 + increment, increment }

end Generator

abbrev Random := StateM Generator

namespace Random

def word : Random UInt32 :=
  modifyGet fun g => (Generator.output g.state, g.advance)

/--
A random position in a list of `n`. The high half of a product says it; where the low half is so
close to the next position that another draw could carry over, that draw is made.
-/
def index (n : Nat) : Random Nat := do
  let product := (← word).toNat * n
  let high := product / Nat.pow 2 32
  let low := product % Nat.pow 2 32
  if Nat.pow 2 32 - n < low then
    let more := (← word).toNat * n / Nat.pow 2 32
    return if Nat.pow 2 32 ≤ low + more then high + 1 else high
  else
    return high

variable {R : Type} [Scalar R]

/-- A random number from 0 to below 1, a multiple of `2 ^ (-23)`. -/
def unit : Random R := do
  return Scalar.ratio ((← word) >>> 9).toNat (Nat.pow 2 23)

def range (low high : R) : Random R := do
  return (← unit) * (high - low) + low

end Random

end ReefRover
