import ReefRover.Scalar
import ReefRover.Trig

/-!
This module makes single precision a `Scalar`. Every operation is rounded on its own.
-/

namespace ReefRover

namespace Single

def radians (degrees : Float32) : Float32 :=
  degrees * Float32.ofBits 0x3c8efa35

def facing (degrees : Float32) : Float32 × Float32 :=
  let angle := radians degrees
  (sine angle, -cosine angle)

instance : Scalar Float32 where
  ofNat := Float32.ofNat
  isFinite := Float32.isFinite
  sqrt := Float32.sqrt
  rem := remainder
  facing := facing
  count x := x.toUInt32.toNat
  decidableLT a b := inferInstanceAs (Decidable (a < b))
  decidableLE a b := inferInstanceAs (Decidable (a ≤ b))

end Single

end ReefRover
