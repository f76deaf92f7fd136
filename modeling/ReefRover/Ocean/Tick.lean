import ReefRover.Ocean.Basic
import ReefRover.Settings

/-!
This module contains what time does to the ocean: fresh trash grows, all trash bobs, and the
spawner adds trash while it is on.
-/

namespace ReefRover

namespace TrashItem

variable {R : Type} [Scalar R]

/-- A piece of trash after `dt` seconds. Collected trash is left alone. -/
def tick (item : TrashItem R) (dt : R) : TrashItem R :=
  if item.isCollected then
    item
  else
    let scale :=
      if item.scale < item.targetScale then
        Scalar.lesser (item.scale + Tuning.trashGrowth * dt) item.targetScale
      else
        item.scale
    let floatOffset :=
      Scalar.rem (item.floatOffset + Tuning.bobbingSpeed * dt) Tuning.fullPhase
    { item with scale, floatOffset }

def fresh (layout : Layout) (id : UInt32) : Random (TrashItem R) := do
  let margin : R := Tuning.spawnMargin * layout.factor
  let far := layout.canvasSize - margin
  let x ← Random.range margin far
  let y ← Random.range margin far
  let kind ← Random.index TrashKind.all.length
  let targetScale ← Random.range Tuning.smallestTrash Tuning.largestTrash
  let floatOffset ← Random.range Scalar.zero Tuning.fullPhase
  return {
    id
    position := { x, y }
    kind := TrashKind.all[kind]?.getD .bottle
    scale := Scalar.zero
    targetScale
    floatOffset
    isCollected := false }

end TrashItem

namespace Ocean

variable {R : Type} [Scalar R]

def spawn (ocean : Ocean R) : UInt32 × Ocean R :=
  let (id, ocean) := ocean.takeId
  let drawn := (TrashItem.fresh ocean.layout id).run ocean.random
  (id, { ocean with trash := ocean.trash ++ [drawn.1], random := drawn.2 })

/-- One attempt to spawn, which fails when there is enough trash. -/
def trySpawn (ocean : Ocean R) (maxTrash : Nat) : Option UInt32 × Ocean R :=
  if ocean.liveTrash < maxTrash then
    let (id, ocean) := ocean.spawn
    (some id, ocean)
  else
    (none, ocean)

/--
The ocean after `dt` seconds, and the id of what was spawned. The spawner's clock goes on from
where it ran out, so attempts keep their interval on average.
-/
def tick (ocean : Ocean R) (settings : Settings R) (spawning : Bool) (dt : R) :
    Option UInt32 × Ocean R :=
  let ocean := { ocean with trash := ocean.trash.map (·.tick dt) }
  if !spawning then
    (none, ocean)
  else
    let left := ocean.spawnTimer - dt
    if left ≤ Scalar.zero then
      let ocean := { ocean with spawnTimer := left + settings.effectiveSpawnInterval }
      ocean.trySpawn settings.maxTrash
    else
      (none, { ocean with spawnTimer := left })

end Ocean

end ReefRover
