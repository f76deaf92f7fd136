import ReefRover.Binary

/-!
This module contains sine and cosine in single precision. The angle is brought into
`[-π/4, π/4]` by subtracting a multiple of `π/2`, a polynomial is evaluated there, all in double
precision, and the result is rounded once.
-/

namespace ReefRover

namespace Trig

structure Reduced where
  quarters : Int
  rest : Float

/-- The leading bits of `4/π`, one word for each shift by eight bits. -/
def invQuarterPi : Array UInt32 :=
  #[0xa2, 0xa2f9, 0xa2f983, 0xa2f9836e, 0xf9836e4e, 0x836e4e44, 0x6e4e4415, 0x4e441529,
    0x441529fc, 0x1529fc27, 0x29fc2757, 0xfc2757d1, 0x2757d1f5, 0x57d1f534, 0xd1f534dd, 0xf534ddc0,
    0x34ddc0db, 0xddc0db62, 0xc0db6295, 0xdb629599, 0x6295993c, 0x95993c43, 0x993c4390, 0x3c439041]

def double (n : Int) : Float :=
  match n with
  | .ofNat k => Float.ofNat k
  | .negSucc k => -Float.ofNat (k + 1)

def whole (x : Float) : Int :=
  if x < 0 then -((-x).toUInt64.toNat : Int) else (x.toUInt64.toNat : Int)

/-- Reduction of an angle below 120: the nearest multiple of `π/2` has 24 bits to spare. -/
def reduceNear (x : Float) : Reduced :=
  let scaled := x * Float.ofBits 0x41645f306dc9c883
  let quarters := (whole scaled + 0x800000) / 0x1000000
  { quarters, rest := x - double quarters * Float.ofBits 0x3ff921fb54442d18 }

/--
Reduction of any finite angle, given its bits: the significand is multiplied by those 96 bits of
`4/π` that decide the quarter and the 62 bits after it. The sign is left to the caller.
-/
def reduceFar (bits : UInt32) : Reduced :=
  let start := ((bits >>> 26) &&& 15).toNat
  let word (i : Nat) : UInt32 := invQuarterPi[start + i]?.getD 0
  let significand := ((bits &&& 0xffffff) ||| 0x800000) <<< ((bits >>> 23) &&& 7)
  let high := significand * word 0
  let middle := significand.toUInt64 * (word 4).toUInt64
  let low := significand.toUInt64 * (word 8).toUInt64
  let product := ((low >>> 32) ||| (high.toUInt64 <<< 32)) + middle
  let quarters := (product + 0x2000000000000000) >>> 62
  let rest := product - (quarters <<< 62)
  let signed :=
    if rest < 0x8000000000000000 then Float.ofNat rest.toNat
    else -Float.ofNat (Nat.pow 2 64 - rest.toNat)
  { quarters := quarters.toNat, rest := signed * Float.ofBits 0x3c1921fb54442d18 }

def sinePolynomial (x x2 : Float) : Float32 :=
  let x3 := x * x2
  let s1 := Float.ofBits 0x3f81107605230bc4 + x2 * Float.ofBits 0xbf2994eb3774cf24
  let x7 := x3 * x2
  let s := x + x3 * Float.ofBits 0xbfc555545995a603
  narrow (s + x7 * s1)

def cosinePolynomial (x2 : Float) (negated : Bool) : Float32 :=
  let signed (bits : UInt64) : Float := if negated then -Float.ofBits bits else Float.ofBits bits
  let x4 := x2 * x2
  let c2 := signed 0xbf56c087e89a359d + x2 * signed 0x3ef99343027bf8c3
  let c1 := signed 0x3ff0000000000000 + x2 * signed 0xbfdffffffd0c621c
  let x6 := x4 * x2
  let c := c1 + x4 * signed 0x3fa55553e1068f19
  narrow (c + x6 * c2)

/-- The sine of a reduced angle whose full angle lies `turns` quarters on. -/
def ofReduced (a : Reduced) (turns : Int) (useCosine : Bool) : Float32 :=
  let negated := turns % 4 == 2 || turns % 4 == 3
  if useCosine then
    cosinePolynomial (a.rest * a.rest) negated
  else
    let sign : Float := if turns % 4 == 1 || turns % 4 == 2 then -1 else 1
    sinePolynomial (a.rest * sign) (a.rest * a.rest)

/-- The quarter count of a reduced angle together with the sign that the far reduction left out. -/
def reduce (x : Float32) : Reduced × Int :=
  let bits := x.toBits
  if (bits >>> 20) &&& 0x7ff < 0x42f then
    let a := reduceNear (widen x)
    (a, a.quarters)
  else
    let a := reduceFar bits
    (a, a.quarters + (bits >>> 31).toNat)

end Trig

def sine (x : Float32) : Float32 :=
  let size := (x.toBits >>> 20) &&& 0x7ff
  if size < 0x398 then
    x
  else if size < 0x3f4 then
    let y := widen x
    Trig.sinePolynomial y (y * y)
  else if size < 0x7f8 then
    let (a, turns) := Trig.reduce x
    Trig.ofReduced a turns (a.quarters % 2 == 1)
  else
    Float32.ofBits 0x7fc00000

def cosine (x : Float32) : Float32 :=
  let size := (x.toBits >>> 20) &&& 0x7ff
  if size < 0x398 then
    1
  else if size < 0x3f4 then
    let y := widen x
    Trig.cosinePolynomial (y * y) false
  else if size < 0x7f8 then
    let (a, turns) := Trig.reduce x
    Trig.ofReduced a turns (a.quarters % 2 == 0)
  else
    Float32.ofBits 0x7fc00000

end ReefRover
