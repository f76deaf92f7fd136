import ReefRover.Pattern.CharSet

/-!
This module contains how sets of characters are told by the bytes of their UTF-8 encodings: as
sequences of stretches of bytes. Every choice of a byte from each stretch of a sequence encodes a
member, and every member is encoded in one way.
-/

namespace ReefRover

structure ByteRange where
  low : UInt8
  high : UInt8
deriving DecidableEq, Repr

namespace CharSet

/--
Where code points have to be taken apart, so that the first part is told by one sequence: where the
length of the encodings changes, and else where their last bytes begin anew.
-/
def cut? (low high : Nat) : Option Nat :=
  let lengths := [0x7f, 0x7ff, 0xffff].find? fun last => low ≤ last && last < high
  let blocks := [0x40, 0x1000, 0x40000].findSome? fun size =>
    if low / size == high / size then none
    else if low % size != 0 then some (low / size * size + size - 1)
    else if high % size + 1 != size then some (high / size * size - 1)
    else none
  lengths.or (if high ≤ 0x7f then none else blocks)

def pieces (low high : Nat) : List (Nat × Nat) :=
  match cut? low high with
  | none => [(low, high)]
  | some last =>
    if _h : low ≤ last ∧ last < high then
      pieces low last ++ pieces (last + 1) high
    else
      [(low, high)]
termination_by high - low
decreasing_by all_goals omega

def encoding (piece : Nat × Nat) : List ByteRange :=
  let bytes (code : Nat) : List UInt8 := String.utf8EncodeChar (Char.ofNat code)
  (bytes piece.1).zipWith ByteRange.mk (bytes piece.2)

/-- The code points of a stretch on both sides of the surrogates. -/
def codePoints (r : CharRange) : List (Nat × Nat) :=
  let low := r.low.toNat
  let high := r.high.toNat
  if low < 0xe000 && 0xd7ff < high then [(low, 0xd7ff), (0xe000, high)] else [(low, high)]

def encodings (s : CharSet) : List (List ByteRange) :=
  s.ranges.flatMap fun r =>
    (codePoints r).flatMap fun (low, high) => (pieces low high).map encoding

end CharSet

end ReefRover
