/-!
This module contains the arithmetic that the simulation is written over. Every definition of the
simulation takes a `Scalar`, so the same text runs in single precision and can be read in exact
arithmetic.
-/

namespace ReefRover

/--
What the simulation asks of its numbers: the four operations, comparisons that can be decided, and
the handful of functions that the robot's geometry and the program's counters need.
-/
class Scalar (R : Type) extends Add R, Sub R, Mul R, Div R, Neg R, LT R, LE R, BEq R where
  ofNat : Nat → R
  isFinite : R → Bool
  sqrt : R → R
  /-- The remainder of a division whose quotient is cut off toward zero. -/
  rem : R → R → R
  /-- The unit vector, as x and y, of something turned clockwise from "up" by some degrees. -/
  facing : R → R × R
  /-- The whole part, no less than 0 and no more than `2 ^ 32 - 1`. -/
  count : R → Nat
  decidableLT : DecidableRel (α := R) (· < ·)
  decidableLE : DecidableRel (α := R) (· ≤ ·)

namespace Scalar

variable {R : Type} [Scalar R]

instance : DecidableRel (α := R) (· < ·) := decidableLT
instance : DecidableRel (α := R) (· ≤ ·) := decidableLE

/-- The quotient of two whole numbers; every constant of the simulation is written as one. -/
def ratio (p q : Nat) : R :=
  ofNat p / ofNat q

def zero : R :=
  ofNat 0

def one : R :=
  ofNat 1

/-- An undefined number is the one that differs from itself. -/
def isUndefined (a : R) : Bool :=
  !(a == a)

/-- The smaller of two numbers; an undefined first one gives way to the second. -/
def lesser (a b : R) : R :=
  if isUndefined a then b else if b < a then b else a

/-- The number of `[low, high]` nearest to `a`; an undefined `a` stays what it is. -/
def clamp (low high a : R) : R :=
  let a := if a < low then low else a
  if high < a then high else a

end Scalar

end ReefRover
