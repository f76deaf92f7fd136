import ReefRover.Ocean.Observe
import ReefRover.Proofs.Ocean.Coral

/-!
This module contains what a look from the robot's position does to the trash: it marks what is in
reach and nothing else, which is what marking the places of all contacts one after the other does,
and it leaves nothing for a second look.
-/

namespace ReefRover

variable {R : Type}

namespace Pickup

def inARow (total : UInt32) (items : List (TrashItem R)) : List Pickup :=
  (items.zipIdx 1).map fun (item, count) => { id := item.id, total := total + UInt32.ofNat count }

theorem inARow_cons (total : UInt32) (item : TrashItem R) (items : List (TrashItem R)) :
    inARow total (item :: items) =
      { id := item.id, total := total + 1 } :: inARow (total + 1) items := by
  have htotal (count : Nat) :
      total + UInt32.ofNat (count + 1) = total + 1 + UInt32.ofNat count := by
    rw [UInt32.ofNat_add, UInt32.add_assoc, UInt32.add_comm (UInt32.ofNat count)]
    rfl
  unfold inARow
  rw [List.zipIdx_cons, List.map_cons, List.zipIdx_succ, List.map_map]
  refine congrArg _ (List.map_congr_left ?_)
  rintro ⟨item, count⟩ -
  exact congrArg (Pickup.mk item.id) (htotal count)

theorem length_inARow (total : UInt32) (items : List (TrashItem R)) :
    (inARow total items).length = items.length := by
  unfold inARow
  rw [List.length_map, List.length_zipIdx]

theorem map_id_inARow (total : UInt32) (items : List (TrashItem R)) :
    (inARow total items).map Pickup.id = items.map TrashItem.id := by
  unfold inARow
  rw [List.map_map]
  have hid : Pickup.id ∘ (fun (item, count) => { id := item.id, total := total + .ofNat count }) =
      TrashItem.id (R := R) ∘ Prod.fst := rfl
  rw [hid, ← List.map_map, List.zipIdx_map_fst]

theorem map_total_inARow {total : UInt32} {items : List (TrashItem R)}
    (h : total.toNat + items.length < 2 ^ 32) :
    (inARow total items).map (·.total.toNat) = List.range' (total.toNat + 1) items.length := by
  induction items generalizing total with
  | nil => rfl
  | cons item items ih =>
    rw [List.length_cons] at h
    have hnext : (total + 1).toNat = total.toNat + 1 := by
      rw [UInt32.toNat_add, UInt32.toNat_one]
      exact Nat.mod_eq_of_lt (by omega)
    rw [inARow_cons, List.map_cons, ih (by omega), hnext, List.length_cons, List.range'_succ]

end Pickup

namespace TrashItem

def taken (item : TrashItem R) : TrashItem R :=
  { item with isCollected := true }

variable [Scalar R] {robot : Point R} {factor : R} {item : TrashItem R}

structure Reached (robot : Point R) (factor : R) (item : TrashItem R) : Prop where
  uncollected : item.isCollected = false
  near : robot.distance item.position < Contact.robotRadius factor + Contact.trashRadius item factor

theorem ofTrash?_eq_none_iff {index : Nat} :
    Contact.ofTrash? robot factor item index = none ↔ ¬ item.Reached robot factor := by
  unfold Contact.ofTrash?
  split
  . next hcollected =>
    refine ⟨fun _ hreached => ?_, fun _ => rfl⟩
    rw [hreached.uncollected] at hcollected
    cases hcollected
  . next hcollected =>
    rw [Contact.ofCircles?_eq_none_iff, not_iff_not]
    exact ⟨fun hnear => ⟨Bool.eq_false_of_not_eq_true hcollected, hnear⟩, Reached.near⟩

theorem isInReach_iff : item.isInReach robot factor = true ↔ item.Reached robot factor := by
  unfold isInReach
  rw [Option.isSome_iff_ne_none, ne_eq, ofTrash?_eq_none_iff, not_not]

instance : DecidablePred (Reached (R := R) robot factor) := fun _ =>
  decidable_of_iff _ isInReach_iff

def gathered (robot : Point R) (factor : R) (item : TrashItem R) : TrashItem R :=
  if item.Reached robot factor then item.taken else item

theorem not_reached_gathered : ¬ (item.gathered robot factor).Reached robot factor := by
  unfold gathered
  split
  . exact fun hreached => nomatch hreached.uncollected
  . next hnot => exact hnot

theorem gathered_gathered :
    (item.gathered robot factor).gathered robot factor = item.gathered robot factor :=
  if_neg not_reached_gathered

def reached (robot : Point R) (factor : R) (items : List (TrashItem R)) : List (TrashItem R) :=
  items.filter fun item => item.Reached robot factor

theorem reached_gathered (items : List (TrashItem R)) :
    reached robot factor (items.map (gathered robot factor)) = [] := by
  unfold reached
  rw [List.filter_eq_nil_iff]
  intro item hitem
  obtain ⟨item, -, rfl⟩ := List.mem_map.mp hitem
  rw [decide_eq_true_iff]
  exact not_reached_gathered

theorem collect_eq (total : UInt32) (items : List (TrashItem R)) :
    collect robot factor total items =
      (Pickup.inARow total (reached robot factor items), items.map (gathered robot factor)) := by
  induction items generalizing total with
  | nil => rfl
  | cons item items ih =>
    unfold collect reached
    rw [List.map_cons]
    split
    . next hreach =>
      have hreached := isInReach_iff.mp hreach
      have hgathered : item.gathered robot factor = item.taken := if_pos hreached
      rw [List.filter_cons, if_pos (decide_eq_true hreached), Pickup.inARow_cons, hgathered, ih]
      rfl
    . next hreach =>
      have hnot : ¬ item.Reached robot factor := mt isInReach_iff.mpr hreach
      have hgathered : item.gathered robot factor = item := if_neg hnot
      rw [List.filter_cons, if_neg (mt of_decide_eq_true hnot), hgathered, ih]
      rfl

end TrashItem

namespace Contact

open TrashItem

variable [Scalar R] {robot : Point R} {factor : R}

theorem ofTrash?_of_reached {item : TrashItem R} (h : item.Reached robot factor) (index : Nat) :
    ofTrash? robot factor item index =
      some (between robot (robotRadius factor) item.position (trashRadius item factor) index) := by
  unfold ofTrash? ofCircles?
  rw [h.uncollected, if_neg Bool.false_ne_true]
  exact if_pos h.near

theorem withTrash_eq (items : List (TrashItem R)) :
    withTrash robot factor items =
      (items.zipIdx.filter fun (item, _) => item.Reached robot factor).map fun (item, index) =>
        between robot (robotRadius factor) item.position (trashRadius item factor) index := by
  unfold withTrash
  induction items.zipIdx with
  | nil => rfl
  | cons entry entries ih =>
    obtain ⟨item, index⟩ := entry
    rw [List.filterMap_cons, List.filter_cons, ih]
    dsimp only
    split
    . next hnone =>
      rw [if_neg (mt of_decide_eq_true (ofTrash?_eq_none_iff.mp hnone))]
    . next contact hsome =>
      have hreached : item.Reached robot factor := by
        by_contra hnot
        rw [ofTrash?_eq_none_iff.mpr hnot] at hsome
        cases hsome
      rw [ofTrash?_of_reached hreached] at hsome
      cases hsome
      rw [if_pos (decide_eq_true hreached), List.map_cons]

theorem filterMap_getElem?_withTrash (items : List (TrashItem R)) :
    (withTrash robot factor items).filterMap (items[·.index]?) = reached robot factor items := by
  rw [withTrash_eq, List.filterMap_map]
  calc
    _ = (items.zipIdx.filter fun (item, _) => item.Reached robot factor).filterMap
        (some ∘ Prod.fst) := by
      apply List.filterMap_congr
      rintro ⟨item, index⟩ hmem
      exact List.mk_mem_zipIdx_iff_getElem?.mp (List.mem_of_mem_filter hmem)
    _ = (items.zipIdx.map Prod.fst).filter fun item => item.Reached robot factor := by
      rw [List.filterMap_eq_map, List.filter_map]
      rfl
    _ = reached robot factor items := by
      rw [List.zipIdx_map_fst]
      rfl

theorem foldl_modify_zipIdx (before items : List (TrashItem R)) :
    let contacts := (items.zipIdx before.length).filterMap fun (item, index) =>
      ofTrash? robot factor item index
    contacts.foldl (fun items contact => items.modify contact.index taken) (before ++ items) =
      before ++ items.map (gathered robot factor) := by
  induction items generalizing before with
  | nil => rfl
  | cons item items ih =>
    have hlater := ih (before ++ [item.gathered robot factor])
    rw [List.length_append, List.append_assoc, List.append_assoc] at hlater
    rw [List.zipIdx_cons, List.map_cons, List.filterMap_cons]
    dsimp only
    by_cases hreached : item.Reached robot factor
    . have hgathered : item.gathered robot factor = item.taken := if_pos hreached
      rw [hgathered] at hlater ⊢
      rw [ofTrash?_of_reached hreached, List.foldl_cons]
      have hmodify : (before ++ item :: items).modify before.length taken =
          before ++ item.taken :: items :=
        List.modifyTailIdx_add _ 0 before (item :: items)
      dsimp only [between]
      rw [hmodify]
      exact hlater
    . have hgathered : item.gathered robot factor = item := if_neg hreached
      rw [hgathered] at hlater ⊢
      rw [ofTrash?_eq_none_iff.mpr hreached]
      exact hlater

theorem foldl_modify_withTrash (items : List (TrashItem R)) :
    (withTrash robot factor items).foldl (fun items contact => items.modify contact.index taken)
      items = items.map (gathered robot factor) :=
  foldl_modify_zipIdx [] items

theorem withTrash_gathered (items : List (TrashItem R)) :
    withTrash robot factor (items.map (gathered robot factor)) = [] := by
  unfold withTrash
  rw [List.filterMap_eq_nil_iff]
  rintro ⟨item, index⟩ hmem
  obtain ⟨item, -, rfl⟩ := List.mem_map.mp (List.fst_mem_of_mem_zipIdx hmem)
  exact ofTrash?_eq_none_iff.mpr not_reached_gathered

end Contact

namespace Ocean

variable [Scalar R]

theorem observe_eq (ocean : Ocean R) (game : GameState) (robot : Point R) :
    let factor := ocean.layout.factor
    let reached := TrashItem.reached robot factor ocean.trash
    ocean.observe game robot =
      { ocean := { ocean with trash := ocean.trash.map (TrashItem.gathered robot factor) }
        game := { game with
          trashCollected := game.trashCollected + UInt32.ofNat reached.length }
        pickups := Pickup.inARow game.trashCollected reached
        contact := Contact.withCoral? robot factor ocean.coral } := by
  unfold observe
  dsimp only
  rw [TrashItem.collect_eq]
  dsimp only
  rw [Pickup.length_inARow]

theorem observe_observe (ocean : Ocean R) (game : GameState) (robot : Point R) :
    let seen := ocean.observe game robot
    seen.ocean.observe seen.game robot = { seen with pickups := [] } := by
  have hgathered : TrashItem.gathered robot ocean.layout.factor ∘
      TrashItem.gathered robot ocean.layout.factor =
        TrashItem.gathered robot ocean.layout.factor :=
    funext fun _ => TrashItem.gathered_gathered
  have htotal (total : UInt32) : total + UInt32.ofNat 0 = total := UInt32.add_zero total
  dsimp only
  rw [ocean.observe_eq game robot, observe_eq]
  dsimp only
  rw [TrashItem.reached_gathered, List.map_map, hgathered, List.length_nil, htotal]
  rfl

end Ocean

end ReefRover
