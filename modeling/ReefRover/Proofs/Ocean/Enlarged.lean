import ReefRover.Ocean.Observe
import ReefRover.Ocean.Reef
import ReefRover.Ocean.Tick
import ReefRover.Proofs.Machine.Enlarged
import ReefRover.Proofs.Ocean.Laid

/-!
This module contains the proof that the ocean is the same on the enlarged layout, only larger: the
same draws give the same reef and the same trash, all stretched, and the robot is in contact with
the same things.
-/

namespace ReefRover

open Scalar

variable {R : Type} [Scalar R]

def TrashItem.enlarged (item : TrashItem R) : TrashItem R :=
  { item with position := item.position.enlarged }

def CoralPiece.enlarged (piece : CoralPiece R) : CoralPiece R :=
  { piece with position := piece.position.enlarged, radius := stretched piece.radius }

def Contact.enlarged (contact : Contact R) : Contact R :=
  { contact with
    distance := stretched contact.distance, penetration := stretched contact.penetration }

def Ocean.enlarged (ocean : Ocean R) : Ocean R :=
  { ocean with
    layout := .enlarged
    trash := ocean.trash.map TrashItem.enlarged
    coral := ocean.coral.map CoralPiece.enlarged }

theorem TrashItem.tick_enlarged (item : TrashItem R) (dt : R) :
    item.enlarged.tick dt = (item.tick dt).enlarged := by
  unfold tick enlarged
  dsimp only
  split
  . rfl
  . rfl

theorem Ocean.liveTrash_enlarged (ocean : Ocean R) :
    ocean.enlarged.liveTrash = ocean.liveTrash := by
  unfold liveTrash enlarged
  dsimp only
  rw [List.countP_map]
  rfl

def Ocean.drawn (ocean : Ocean R) : TrashItem R × Generator :=
  (TrashItem.fresh ocean.layout ocean.nextId).run ocean.random

def Ocean.adding (ocean : Ocean R) (drawn : TrashItem R × Generator) : Ocean R :=
  { ocean with
    trash := ocean.trash ++ [drawn.1], random := drawn.2, nextId := ocean.nextId + 1 }

theorem Ocean.spawn_eq (ocean : Ocean R) : ocean.spawn = (ocean.nextId, ocean.adding ocean.drawn) :=
  rfl

theorem Ocean.adding_enlarged (ocean : Ocean R) (drawn : TrashItem R × Generator) :
    ocean.enlarged.adding (drawn.1.enlarged, drawn.2) = (ocean.adding drawn).enlarged := by
  unfold adding enlarged
  dsimp only
  rw [List.map_append, List.map_singleton]

variable [Stretches R]

theorem Layout.mul_enlarged_factor (a : R) :
    a * Layout.enlarged.factor = stretched (a * Layout.normal.factor) := by
  rw [Stretches.mul_normal]
  rfl

theorem Layout.canvasSize_enlarged :
    (Layout.enlarged.canvasSize : R) = stretched Layout.normal.canvasSize :=
  mul_enlarged_factor _

theorem Ocean.center_enlarged {ocean : Ocean R} (h : ocean.layout = .normal) :
    ocean.enlarged.center = ocean.center.enlarged := by
  have hhalf : (Layout.enlarged.canvasSize : R) / ofNat 2 =
      stretched (Layout.normal.canvasSize / ofNat 2) := by
    rw [Layout.canvasSize_enlarged, Stretches.stretched_div]
  unfold center
  rw [h]
  unfold enlarged Point.enlarged
  dsimp only
  rw [hhalf]

/-! ### Contacts -/

theorem Point.distance_enlarged (p q : Point R) :
    p.enlarged.distance q.enlarged = stretched (p.distance q) := by
  unfold distance enlarged
  dsimp only
  rw [← Stretches.stretched_sub, ← Stretches.stretched_sub, Stretches.sqrt_stretched]

namespace Contact

theorem ofCircles?_enlarged (p : Point R) (radius : R) (q : Point R) (radius' : R) (index : Nat) :
    ofCircles? p.enlarged (stretched radius) q.enlarged (stretched radius') index =
      (ofCircles? p radius q radius' index).map Contact.enlarged := by
  unfold ofCircles?
  dsimp only
  rw [Point.distance_enlarged, ← Stretches.stretched_add, ← Stretches.stretched_sub]
  simp only [Stretches.lt_stretched]
  split
  . rfl
  . rfl

theorem robotRadius_enlarged :
    (robotRadius Layout.enlarged.factor : R) = stretched (robotRadius Layout.normal.factor) :=
  Layout.mul_enlarged_factor _

theorem trashRadius_enlarged (item : TrashItem R) :
    trashRadius item.enlarged Layout.enlarged.factor =
      stretched (trashRadius item Layout.normal.factor) := by
  unfold trashRadius
  rw [Layout.mul_enlarged_factor, Stretches.stretched_mul _ item.scale]
  rfl

theorem ofTrash?_enlarged (robot : Point R) (item : TrashItem R) (index : Nat) :
    ofTrash? robot.enlarged Layout.enlarged.factor item.enlarged index =
      (ofTrash? robot Layout.normal.factor item index).map Contact.enlarged := by
  have hcollected : item.enlarged.isCollected = item.isCollected := rfl
  unfold ofTrash?
  rw [hcollected, robotRadius_enlarged, trashRadius_enlarged]
  split
  . rfl
  . exact ofCircles?_enlarged ..

theorem withCoral?_enlarged (robot : Point R) (coral : List (CoralPiece R)) :
    withCoral? robot.enlarged Layout.enlarged.factor (coral.map CoralPiece.enlarged) =
      (withCoral? robot Layout.normal.factor coral).map Contact.enlarged := by
  unfold withCoral?
  rw [List.zipIdx_map, List.findSome?_map, List.map_findSome?]
  congr 1
  funext ⟨piece, index⟩
  have hpiece := ofCircles?_enlarged robot (robotRadius Layout.normal.factor) piece.position
    piece.radius index
  rw [← robotRadius_enlarged] at hpiece
  exact hpiece

end Contact

namespace TrashItem

theorem isInReach_enlarged (robot : Point R) (item : TrashItem R) :
    item.enlarged.isInReach robot.enlarged Layout.enlarged.factor =
      item.isInReach robot Layout.normal.factor := by
  unfold isInReach
  rw [Contact.ofTrash?_enlarged]
  exact Option.isSome_map

theorem collect_enlarged (robot : Point R) (total : UInt32) (items : List (TrashItem R)) :
    collect robot.enlarged Layout.enlarged.factor total (items.map TrashItem.enlarged) =
      ((collect robot Layout.normal.factor total items).1,
        (collect robot Layout.normal.factor total items).2.map TrashItem.enlarged) := by
  induction items generalizing total with
  | nil => rfl
  | cons item items ih =>
    rw [List.map_cons]
    unfold collect
    rw [isInReach_enlarged]
    split
    . dsimp only
      rw [ih]
      rfl
    . dsimp only
      rw [ih]
      rfl

end TrashItem

/-! ### Draws -/

theorem mapM_enlarged {α β γ : Type} {f : α → Random β} {f' : α → Random γ} {k : β → γ}
    (h : ∀ a, f' a = k <$> f a) (as : List α) : as.mapM f' = List.map k <$> as.mapM f := by
  induction as with
  | nil => rfl
  | cons a as ih =>
    rw [List.mapM_cons, List.mapM_cons, h, ih]
    simp only [map_eq_pure_bind, bind_assoc, pure_bind, List.map_cons]

namespace Random

theorem range_enlarged (low high : R) :
    range (stretched low) (stretched high) = stretched <$> range low high := by
  have hdraw (v : R) : v * (stretched high - stretched low) + stretched low =
      stretched (v * (high - low) + low) := by
    rw [← Stretches.stretched_sub, ← Stretches.stretched_mul', ← Stretches.stretched_add]
  unfold range
  simp only [map_eq_pure_bind, bind_assoc, pure_bind, hdraw]

end Random

theorem TrashItem.fresh_enlarged (id : UInt32) :
    (fresh .enlarged id : Random (TrashItem R)) = enlarged <$> fresh .normal id := by
  unfold fresh
  dsimp only
  rw [Layout.canvasSize_enlarged, Layout.mul_enlarged_factor, ← Stretches.stretched_sub,
    Random.range_enlarged]
  simp only [map_eq_pure_bind, bind_assoc, pure_bind]
  rfl

namespace Reef

theorem Edge.place_enlarged (edge : Edge) (size along inset : R) :
    edge.place (stretched size) (stretched along) (stretched inset) =
      (edge.place size along inset).enlarged := by
  cases edge with
  | top => rfl
  | right | bottom | left =>
    unfold place Point.enlarged
    dsimp only
    simp only [Stretches.stretched_sub]

theorem piece_enlarged (cell : Nat) (edge : Edge) :
    (piece .enlarged cell edge : Random (CoralPiece R)) =
      CoralPiece.enlarged <$> piece .normal cell edge := by
  unfold piece
  dsimp only
  simp only [map_eq_pure_bind, bind_assoc, pure_bind, Layout.canvasSize_enlarged,
    Layout.mul_enlarged_factor, ← Stretches.stretched_mul', Edge.place_enlarged]
  rfl

theorem cells_enlarged : cells R .enlarged = cells R .normal := by
  unfold cells
  dsimp only
  rw [Layout.canvasSize_enlarged, Layout.mul_enlarged_factor, Stretches.div_stretched]

theorem pieces_enlarged :
    (pieces .enlarged : Random (List (CoralPiece R))) =
      List.map CoralPiece.enlarged <$> pieces .normal := by
  unfold pieces
  dsimp only
  rw [cells_enlarged]
  apply mapM_enlarged
  intro a
  exact piece_enlarged a.1 a.2

end Reef

namespace Ocean

variable {ocean : Ocean R}

theorem growReef_enlarged (h : ocean.layout = .normal) :
    ocean.enlarged.growReef = ocean.growReef.enlarged := by
  rcases ocean with ⟨layout, trash, coral, spawnTimer, random, nextId⟩
  cases h
  unfold growReef enlarged
  dsimp only
  rw [Reef.pieces_enlarged, Random.run_map]

theorem drawn_enlarged (h : ocean.layout = .normal) :
    ocean.enlarged.drawn = (ocean.drawn.1.enlarged, ocean.drawn.2) := by
  have hdrawn : ocean.enlarged.drawn =
      StateT.run (TrashItem.fresh .enlarged ocean.nextId) ocean.random := rfl
  unfold drawn at hdrawn ⊢
  rw [hdrawn, h, TrashItem.fresh_enlarged, Random.run_map]

theorem spawn_enlarged (h : ocean.layout = .normal) :
    ocean.enlarged.spawn = (ocean.spawn.1, ocean.spawn.2.enlarged) := by
  rw [spawn_eq, spawn_eq, drawn_enlarged h, adding_enlarged]
  rfl

theorem trySpawn_enlarged (h : ocean.layout = .normal) (maxTrash : Nat) :
    ocean.enlarged.trySpawn maxTrash =
      ((ocean.trySpawn maxTrash).1, (ocean.trySpawn maxTrash).2.enlarged) := by
  unfold trySpawn
  rw [liveTrash_enlarged, spawn_enlarged h]
  split
  . rfl
  . rfl

end Ocean

def Settings.enlarged (settings : Settings R) : Settings R :=
  { settings with layout := .enlarged }

namespace Ocean

variable {ocean : Ocean R}

theorem tick_enlarged (h : ocean.layout = .normal) (settings : Settings R) (spawning : Bool)
    (dt : R) :
    ocean.enlarged.tick settings.enlarged spawning dt =
      ((ocean.tick settings spawning dt).1, (ocean.tick settings spawning dt).2.enlarged) := by
  have htrash : (ocean.trash.map TrashItem.enlarged).map (·.tick dt) =
      (ocean.trash.map (·.tick dt)).map TrashItem.enlarged := by
    rw [List.map_map, List.map_map]
    apply List.map_congr_left
    intro item _
    exact item.tick_enlarged dt
  rcases ocean with ⟨layout, trash, coral, spawnTimer, random, nextId⟩
  cases h
  unfold tick
  dsimp only [enlarged]
  rw [htrash]
  split
  . rfl
  . split
    . let due : Ocean R :=
        { layout := .normal
          trash := trash.map (·.tick dt)
          coral
          spawnTimer := spawnTimer - dt + settings.effectiveSpawnInterval
          random
          nextId }
      have hdue : due.layout = .normal := rfl
      exact trySpawn_enlarged hdue settings.maxTrash
    . rfl

theorem observe_enlarged (h : ocean.layout = .normal) (game : GameState) (robot : Point R) :
    ocean.enlarged.observe game robot.enlarged =
      { ocean.observe game robot with
        ocean := (ocean.observe game robot).ocean.enlarged
        contact := (ocean.observe game robot).contact.map Contact.enlarged } := by
  rcases ocean with ⟨layout, trash, coral, spawnTimer, random, nextId⟩
  cases h
  unfold observe enlarged
  dsimp only
  rw [TrashItem.collect_enlarged, Contact.withCoral?_enlarged]

end Ocean

end ReefRover
