import ReefRover.Ocean.Observe
import ReefRover.Robot.Codec

/-!
This module contains the JSON form of trash, coral and the game.
-/

namespace ReefRover

open Json (Fields Draft Decoder DecodeError)

namespace Point

def toJson (p : Point Float32) : Json :=
  .arr [.single p.x, .single p.y]

def ofDraft : Decoder Draft (Point Float32)
  | .arr items =>
    let expected := "a sequence of 2 f32 values"
    match items with
    | [] => .error (.invalidLength 0 expected)
    | [x] => do
      discard (Draft.single x)
      throw (.invalidLength 1 expected)
    | x :: y :: later => do
      let p := { x := ← Draft.single x, y := ← Draft.single y }
      if later.isEmpty then return p else throw .notJson
  | d => do throw (.invalidType (← d.shape) "a sequence of 2 f32 values")

end Point

namespace TrashItem

def toJson (item : TrashItem Float32) : Json :=
  .obj
    [("id", .nat item.id.toNat), ("pos", item.position.toJson), ("kind", .str item.kind.name),
      ("scale", .single item.scale), ("target_scale", .single item.targetScale),
      ("float_offset", .single item.floatOffset), ("is_collected", .bool item.isCollected)]

def fields : Fields Draft (TrashItem Float32) :=
  TrashItem.mk <$> .required "id" (Draft.scalar Json.Shape.word32)
    <*> .required "pos" Point.ofDraft
    <*> .required "kind" TrashKind.choice.ofDraft
    <*> .required "scale" Draft.single
    <*> .required "target_scale" Draft.single
    <*> .required "float_offset" Draft.single
    <*> .required "is_collected" (Draft.scalar Json.Shape.boolean)

def ofDraft : Decoder Draft (TrashItem Float32) :=
  fields.ofDraft "TrashItem"

end TrashItem

namespace CoralPiece

def toJson (piece : CoralPiece Float32) : Json :=
  .obj
    [("pos", piece.position.toJson), ("radius", .single piece.radius),
      ("color", .nat piece.color.toNat)]

def fields : Fields Draft (CoralPiece Float32) :=
  CoralPiece.mk <$> .required "pos" Point.ofDraft <*> .required "radius" Draft.single
    <*> .required "color" (Draft.scalar Json.Shape.word32)

def ofDraft : Decoder Draft (CoralPiece Float32) :=
  fields.ofDraft "CoralPiece"

end CoralPiece

namespace GameState

def toJson (game : GameState) : Json :=
  .obj
    [("trash_collected", .nat game.trashCollected.toNat), ("is_game_over", .bool game.isGameOver),
      ("game_lost", .bool game.gameLost), ("is_spawning_trash", .bool game.isSpawningTrash)]

def fields : Fields Draft GameState :=
  GameState.mk <$> .required "trash_collected" (Draft.scalar Json.Shape.word32)
    <*> .required "is_game_over" (Draft.scalar Json.Shape.boolean)
    <*> .required "game_lost" (Draft.scalar Json.Shape.boolean)
    <*> .required "is_spawning_trash" (Draft.scalar Json.Shape.boolean)

def ofDraft : Decoder Draft GameState :=
  fields.ofDraft "GameState"

end GameState

end ReefRover
