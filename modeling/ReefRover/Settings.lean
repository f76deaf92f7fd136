import ReefRover.Json.Fields
import ReefRover.Layout

/-!
This module contains the settings of the playground and their JSON form.
-/

namespace ReefRover

structure Settings (R : Type) where
  layout : Layout
  trashSpawning : Bool
  /-- Seconds between two spawn attempts. -/
  spawnInterval : R
  /-- The cap on uncollected trash. -/
  maxTrash : Nat
  /-- The seed of the random numbers. Without one, each session has its own. -/
  seed : Option UInt64
deriving DecidableEq, Repr

namespace Settings

variable {R : Type} [Scalar R]

def defaults : Settings R :=
  { layout := .normal
    trashSpawning := true
    spawnInterval := Tuning.spawnInterval
    maxTrash := Tuning.maxTrash
    seed := none }

/-- The spawn interval, or the default one if it is not a positive finite number. -/
def effectiveSpawnInterval (settings : Settings R) : R :=
  if Scalar.isFinite settings.spawnInterval && decide (Scalar.zero < settings.spawnInterval) then
    settings.spawnInterval
  else
    Tuning.spawnInterval

def toJson (settings : Settings Float32) : Json :=
  .obj
    [("layout", .str settings.layout.name),
      ("trash_spawning", .bool settings.trashSpawning),
      ("spawn_interval_secs", .single settings.spawnInterval),
      ("max_trash", .nat settings.maxTrash),
      ("seed", .optional (fun seed => .nat seed.toNat) settings.seed)]

def toText (settings : Settings Float32) : String :=
  settings.toJson.render

def fields : Json.Fields Json.Draft (Settings Float32) :=
  Settings.mk <$> .required "layout" Layout.choice.ofDraft
    <*> .required "trash_spawning" (Json.Draft.scalar Json.Shape.boolean)
    <*> .required "spawn_interval_secs" (Json.Draft.scalar Json.Shape.single)
    <*> .required "max_trash" (Json.Draft.scalar Json.Shape.size)
    <*> .optional "seed" (Json.Draft.nullable (Json.Draft.scalar Json.Shape.word64))

def ofText : Json.Decoder String (Settings Float32) :=
  Json.decode (fields.ofDraft "Settings")

end Settings

end ReefRover
