import ReefRover.Binary

/-!
This module contains the timestamps of host frames.
-/

namespace ReefRover

/--
The seconds between two timestamps in milliseconds. A first frame and a clock that jumps back count
as no time.
-/
def frameDelta (previous : Option Float) (now : Float) : Float32 :=
  match previous with
  | some previous => if previous < now then narrow ((now - previous) / 1000) else 0
  | none => 0

end ReefRover
