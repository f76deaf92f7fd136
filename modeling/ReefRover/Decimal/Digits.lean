/-!
This module contains the decimal digits of whole numbers.
-/

namespace ReefRover

abbrev Digit := Fin 10

namespace Digit

def ofNat (n : Nat) : Digit :=
  ⟨n % 10, Nat.mod_lt n (by decide)⟩

def toChar (d : Digit) : Char :=
  Char.ofNat (48 + d.val)

def ofChar? (c : Char) : Option Digit :=
  if '0' ≤ c ∧ c ≤ '9' then some (ofNat (c.toNat - 48)) else none

end Digit

namespace Digits

/-- The number that a list of digits spells, the highest digit first. -/
def toNat (digits : List Digit) : Nat :=
  digits.foldl (fun n d => 10 * n + d.val) 0

def ofNat (n : Nat) : List Digit :=
  go (n + 1) n []
where
  /-- One digit more than `n` has is `fuel` enough. -/
  go : (fuel : Nat) → Nat → List Digit → List Digit
    | 0, _, later => later
    | fuel + 1, n, later =>
      if n < 10 then Digit.ofNat n :: later else go fuel (n / 10) (Digit.ofNat n :: later)

def toChars (digits : List Digit) : List Char :=
  digits.map Digit.toChar

def toString (digits : List Digit) : String :=
  String.ofList (toChars digits)

end Digits

end ReefRover
