/-!
This module contains how a class of characters is told by its borders: the code points, in order,
at which it begins and ends in turn. What is before the first border is outside of the class.
-/

namespace ReefRover

namespace Text

/-- The number of borders up to a code point, found by halving `borders[low:high]`. -/
def bordersUpTo (borders : Array Nat) (code : Nat) : (steps : Nat) → (low high : Nat) → Nat
  | 0, low, _ => low
  | steps + 1, low, high =>
    if low < high then
      let middle := (low + high) / 2
      if borders[middle]?.getD 0 ≤ code then
        bordersUpTo borders code steps (middle + 1) high
      else
        bordersUpTo borders code steps low middle
    else
      low

def isWithin (borders : Array Nat) (c : Char) : Bool :=
  bordersUpTo borders c.toNat 12 0 borders.size % 2 == 1

end Text

end ReefRover
