import ReefRover.Binary
import ReefRover.Decimal.Digits

/-!
This module contains decimals with a fixed number of places, as log messages show them.
-/

namespace ReefRover

/-- The whole number nearest to a quotient; a tie goes to the even one. -/
def roundQuotient (num den : Nat) : Nat :=
  let q := num / den
  let twice := 2 * (num % den)
  if twice < den then q else if den < twice then q + 1 else q + q % 2

/-- A number with so many places after the point, rounded from its exact value. -/
def fixed (places : Nat) (x : Float32) : String :=
  if x.isNaN then
    "NaN"
  else if x.isInf then
    if x < 0 then "-inf" else "inf"
  else
    let b := Binary.ofSingle x
    let scaled := roundQuotient (b.significand * Nat.pow 2 b.exponent.toNat * Nat.pow 10 places)
      (Nat.pow 2 (-b.exponent).toNat)
    let sign := if b.negative then "-" else ""
    let whole := Digits.toString (Digits.ofNat (scaled / Nat.pow 10 places))
    if places = 0 then
      sign ++ whole
    else
      let part := Digits.ofNat (scaled % Nat.pow 10 places)
      let padding := List.replicate (places - part.length) (0 : Digit)
      sign ++ whole ++ "." ++ Digits.toString (padding ++ part)

end ReefRover
