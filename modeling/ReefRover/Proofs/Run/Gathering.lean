import ReefRover.Proofs.Ocean.Gathering
import ReefRover.Proofs.Run.Collision
import ReefRover.Scalar.Single

/-!
This module contains the proof that a look at the robot's pose collects exactly what is in reach,
each piece once, tells of each piece, and names the coral in the robot's way.
-/

namespace ReefRover

variable {R : Type}

namespace Controller

theorem events_foldl_pickUp (c : Controller R) (pickups : List Pickup) :
    (pickups.foldl pickUp c).events.toList = c.events.toList ++ pickups.map Pickup.event :=
  foldl_appended pickUp (fun c => c.events.toList) Pickup.event (fun _ _ => Array.toList_push)
    pickups c

end Controller

namespace Ocean

variable [Scalar R]

/--
What is collected from where the robot is: the items within reach, at whatever places of the list
they are. Each of them is a pickup, in the order of the list, and everything else stays as it is.
-/
structure Gathers (ocean : Ocean R) (game : GameState) (robot : Point R) (seen : Observation R) :
    Prop where
  ocean_eq : seen.ocean =
    { ocean with trash := ocean.trash.map (TrashItem.gathered robot ocean.layout.factor) }
  game_eq : seen.game = { game with trashCollected := seen.game.trashCollected }
  contacts_eq :
    (Contact.withTrash robot ocean.layout.factor ocean.trash).filterMap (ocean.trash[·.index]?) =
      TrashItem.reached robot ocean.layout.factor ocean.trash
  marked_eq :
    (Contact.withTrash robot ocean.layout.factor ocean.trash).foldl
      (fun items contact => items.modify contact.index TrashItem.taken) ocean.trash =
        seen.ocean.trash
  ids_eq : seen.pickups.map Pickup.id =
    (TrashItem.reached robot ocean.layout.factor ocean.trash).map TrashItem.id

theorem gathers_observe (ocean : Ocean R) (game : GameState) (robot : Point R) :
    ocean.Gathers game robot (ocean.observe game robot) := by
  rw [observe_eq]
  exact
    { ocean_eq := rfl
      game_eq := rfl
      contacts_eq := Contact.filterMap_getElem?_withTrash ocean.trash
      marked_eq := Contact.foldl_modify_withTrash ocean.trash
      ids_eq := Pickup.map_id_inARow _ _ }

/--
A look collects what is in reach and nothing else. The score grows by one for each piece, unless it
overflows, and there is an event for each piece. The contact is that of the first coral piece that
the robot overlaps, if there is one. Looking again from there, however often, changes nothing.
-/
theorem observe_collects_once (ocean : Ocean R) (game : GameState) (robot : Point R) :
    let factor : R := ocean.layout.factor
    let reached := TrashItem.reached robot factor ocean.trash
    let seen := ocean.observe game robot
    ocean.Gathers game robot seen ∧
      (game.trashCollected.toNat + reached.length < 2 ^ 32 →
        seen.game.trashCollected.toNat = game.trashCollected.toNat + reached.length ∧
          seen.pickups.map (·.total.toNat) =
            List.range' (game.trashCollected.toNat + 1) reached.length) ∧
      (∀ c : Controller R, (seen.pickups.foldl Controller.pickUp c).events.toList =
        c.events.toList ++ seen.pickups.map Pickup.event) ∧
      (seen.contact = none ↔ ∀ piece ∈ ocean.coral, ¬ piece.Overlaps robot factor) ∧
      (∀ contact, seen.contact = some contact → contact.IsLowest robot factor ocean.coral ∧
        ∃ piece, ocean.coral[contact.index]? = some piece ∧
          contact = .between robot (Contact.robotRadius factor) piece.position piece.radius
            contact.index) ∧
      (∀ n, (fun seen : Observation R => seen.ocean.observe seen.game robot)^[n + 1] seen =
        { seen with pickups := [] }) ∧
      Contact.withTrash robot factor seen.ocean.trash = [] := by
  intro factor reached seen
  have hseen : seen = _ := ocean.observe_eq game robot
  have hcontact : seen.contact = Contact.withCoral? robot factor ocean.coral := by
    rw [hseen]
  refine ⟨ocean.gathers_observe game robot, ?_, ?_, ?_, ?_, ?_, ?_⟩
  . intro hscore
    have hlength : (UInt32.ofNat reached.length).toNat = reached.length :=
      UInt32.toNat_ofNat_of_lt' (Nat.lt_of_le_of_lt (Nat.le_add_left _ _) hscore)
    rw [hseen]
    refine ⟨?_, Pickup.map_total_inARow hscore⟩
    rw [UInt32.toNat_add, hlength]
    exact Nat.mod_eq_of_lt hscore
  . intro c
    exact c.events_foldl_pickUp seen.pickups
  . rw [hcontact]
    exact Contact.withCoral?_eq_none_iff
  . intro contact hsome
    rw [hcontact] at hsome
    exact ⟨Contact.isLowest_of_withCoral? hsome, Contact.eq_between_of_withCoral? hsome⟩
  . intro n
    have hfirst := ocean.observe_observe game robot
    rw [Function.iterate_succ_apply]
    refine (congrArg _ hfirst).trans (Function.iterate_fixed ?_ n)
    exact hfirst
  . rw [hseen]
    exact Contact.withTrash_gathered ocean.trash

theorem observe_collects_once_of_four :
    let item (id : UInt32) (x : Float32) (isCollected : Bool) : TrashItem Float32 :=
      { id, position := { x, y := 200 }, kind := .can, scale := 1, targetScale := 1
        floatOffset := 0, isCollected }
    let piece (x : Float32) : CoralPiece Float32 :=
      { position := { x, y := 200 }, radius := 10, color := 0 }
    let ocean : Ocean Float32 :=
      { Ocean.empty .normal 7 with
        trash := [item 1 200 true, item 2 200 false, item 3 300 false, item 4 210 false]
        coral := [piece 300, piece 180, piece 220] }
    let seen := ocean.observe {} { x := 200, y := 200 }
    seen.game.trashCollected.toNat = 2 ∧ seen.pickups.map (·.total.toNat) = [1, 2] ∧
      seen.pickups.map Pickup.id = [2, 4] ∧
      ∃ contact, seen.contact = some contact ∧ contact.index = 1 := by
  intro item piece ocean seen
  let robot : Point Float32 := { x := 200, y := 200 }
  have hreached : TrashItem.reached robot ocean.layout.factor ocean.trash =
      [item 2 200 false, item 4 210 false] := by decide +kernel
  obtain ⟨hgathers, hscore, -, hnone, hsome, -, -⟩ := observe_collects_once ocean {} robot
  rw [hreached] at hscore
  obtain ⟨htotal, htotals⟩ := hscore (by decide)
  refine ⟨htotal, htotals, ?_, ?_⟩
  . rw [hgathers.ids_eq, hreached]
    rfl
  . have hoverlaps : (piece 180).Overlaps robot ocean.layout.factor := by
      unfold CoralPiece.Overlaps
      decide +kernel
    have hclear : ¬ (piece 300).Overlaps robot ocean.layout.factor := by
      unfold CoralPiece.Overlaps
      decide +kernel
    cases hcontact : seen.contact with
    | none => exact absurd hoverlaps (hnone.mp hcontact (piece 180) (by decide +kernel))
    | some contact =>
      obtain ⟨⟨⟨found, hfound, hfoundOverlaps⟩, hle⟩, -⟩ := hsome contact hcontact
      refine ⟨contact, rfl, Nat.le_antisymm (hle 1 (piece 180) rfl hoverlaps) ?_⟩
      rw [Nat.one_le_iff_ne_zero]
      intro hzero
      rw [hzero] at hfound
      cases hfound
      exact hclear hfoundOverlaps

end Ocean

end ReefRover
