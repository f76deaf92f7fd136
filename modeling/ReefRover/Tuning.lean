import ReefRover.Scalar

/-!
This module contains the constants of the simulation. Lengths are canvas pixels, times are seconds
and angles are degrees unless a constant says otherwise. All are quotients of small whole numbers,
so each has the value that its quotient rounds to.
-/

namespace ReefRover

namespace Tuning

open Scalar

variable {R : Type} [Scalar R]

def timestep : R := ratio 1 120

def maxSubsteps : Nat := 8

def maxFrame : R := ratio 1 10

def canvasSize : R := ofNat 400

/-- The robot is a circle for collisions. -/
def robotRadius : R := ofNat 20

/-- The drive and turn velocity of a robot at rest, in percent. -/
def defaultVelocity : R := ofNat 50

/-- The highest velocity, in percent. -/
def maxVelocity : R := ofNat 100

def millimetresPerPixel : R := ofNat 5

def defaultDriveDistance : R := ofNat 100

def defaultTurnDegrees : R := ofNat 90

def motionDuration : R := ratio 1 2

def defaultDriveDuration : R := ofNat 1

def defaultWait : R := ofNat 1

def defaultRepeat : R := ofNat 10

def pollInterval : R := ratio 1 10

def foreverYield : R := ratio 1 100

/-- Time left below this counts as none, which absorbs the drift of summed timesteps. -/
def timeTolerance : R := ratio 1 100000

def spawnInterval : R := ofNat 2

def maxTrash : Nat := 20

def spawnMargin : R := ofNat 40

def trashRadius : R := ofNat 12

/-- The growth of a fresh piece of trash, in scale per second. -/
def trashGrowth : R := ofNat 4

/-- The phase speed of idle bobbing, in radians per second. -/
def bobbingSpeed : R := ofNat 2

/-- A full turn of the bobbing phase: `2π` radians, exactly as single precision has it. -/
def fullPhase : R := ratio 13176795 2097152

def smallestTrash : R := ratio 4 5

def largestTrash : R := ratio 6 5

def coralSpacing : R := ofNat 36

def coralMinRadius : R := ofNat 10

def coralMaxRadius : R := ofNat 18

def coralMaxInset : R := ofNat 8

/-- The colours of coral, as red, green and blue bytes. -/
def coralPalette : List UInt32 := [0xff7f50, 0xff6f91, 0xf9a03f, 0xc06c84, 0xe84a5f]

/-- A headless run that is still going after this long is stopped. -/
def runTimeLimit : R := ofNat 120

end Tuning

end ReefRover
