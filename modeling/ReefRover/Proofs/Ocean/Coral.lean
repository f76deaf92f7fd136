import ReefRover.Ocean.Contact
import ReefRover.Proofs.Scalar.Squares

/-!
This module contains what a contact with coral says: which piece it names, and that it depends on
the robot's position up to equality only.
-/

namespace ReefRover

variable {R : Type} [Scalar R]

theorem Point.distance_eq [Scalar.Metric R] {p q : Point R} (hx : (p.x == q.x) = true)
    (hy : (p.y == q.y) = true) (r : Point R) : p.distance r = q.distance r := by
  unfold distance
  dsimp only
  rw [Scalar.Metric.square_sub_eq hx, Scalar.Metric.square_sub_eq hy]

def CoralPiece.Overlaps (piece : CoralPiece R) (robot : Point R) (factor : R) : Prop :=
  robot.distance piece.position < Contact.robotRadius factor + piece.radius

namespace Contact

variable {robot : Point R} {factor : R} {coral : List (CoralPiece R)}

def between (p : Point R) (radius : R) (q : Point R) (radius' : R) (index : Nat) : Contact R :=
  { index, distance := p.distance q, penetration := radius + radius' - p.distance q }

variable {p q : Point R} {radius radius' : R} {index : Nat}

theorem ofCircles?_eq_none_iff :
    ofCircles? p radius q radius' index = none ↔ ¬ p.distance q < radius + radius' := by
  unfold ofCircles?
  dsimp only
  split
  . next h => simp [h]
  . next h => simp [h]

theorem ofCircles?_eq_some {contact : Contact R}
    (h : ofCircles? p radius q radius' index = some contact) :
    p.distance q < radius + radius' ∧ contact = between p radius q radius' index := by
  unfold ofCircles? at h
  dsimp only at h
  split at h
  . next hnear =>
    cases h
    exact ⟨hnear, rfl⟩
  . cases h

/-- A contact with the piece of lowest index among those that a robot overlaps. -/
structure IsLowest (contact : Contact R) (robot : Point R) (factor : R)
    (coral : List (CoralPiece R)) : Prop where
  overlaps : ∃ piece, coral[contact.index]? = some piece ∧ piece.Overlaps robot factor
  index_le : ∀ i piece, coral[i]? = some piece → piece.Overlaps robot factor → contact.index ≤ i

theorem isLowest_of_withCoral? {contact : Contact R}
    (h : withCoral? robot factor coral = some contact) :
    contact.IsLowest robot factor coral := by
  unfold withCoral? at h
  obtain ⟨before, ⟨piece, index⟩, after, hpieces, hpiece, hbefore⟩ :=
    List.findSome?_eq_some_iff.mp h
  obtain ⟨before, rest, rfl, rfl, hrest⟩ := List.zipIdx_eq_append_iff.mp hpieces
  obtain ⟨piece, after, rfl, heq, -⟩ := List.zipIdx_eq_cons_iff.mp hrest.symm
  cases heq
  obtain ⟨hoverlaps, heq⟩ := ofCircles?_eq_some hpiece
  have hindex : contact.index = before.length := by
    rw [heq]
    exact Nat.zero_add _
  constructor
  . refine ⟨piece, ?_, hoverlaps⟩
    rw [hindex, List.getElem?_append_right (Nat.le_refl _), Nat.sub_self]
    rfl
  . intro i piece' hpiece' hoverlaps'
    rw [hindex]
    apply Nat.le_of_not_lt
    intro hlt
    -- a piece that comes before was looked at first, and nothing was found there
    rw [List.getElem?_append_left hlt] at hpiece'
    have hmem : (piece', i) ∈ before.zipIdx := List.mk_mem_zipIdx_iff_getElem?.mpr hpiece'
    exact ofCircles?_eq_none_iff.mp (hbefore _ hmem) hoverlaps'

theorem withCoral?_eq_none_iff :
    withCoral? robot factor coral = none ↔ ∀ piece ∈ coral, ¬ piece.Overlaps robot factor := by
  unfold withCoral?
  rw [List.findSome?_eq_none_iff]
  constructor
  . intro h piece hpiece
    obtain ⟨i, hi⟩ := List.mem_iff_getElem?.mp hpiece
    exact ofCircles?_eq_none_iff.mp (h (piece, i) (List.mk_mem_zipIdx_iff_getElem?.mpr hi))
  . rintro h ⟨piece, i⟩ hmem
    rw [List.mk_mem_zipIdx_iff_getElem?] at hmem
    exact ofCircles?_eq_none_iff.mpr (h piece (List.mem_of_getElem? hmem))

theorem eq_between_of_withCoral? {contact : Contact R}
    (h : withCoral? robot factor coral = some contact) :
    ∃ piece, coral[contact.index]? = some piece ∧
      contact = between robot (robotRadius factor) piece.position piece.radius contact.index := by
  obtain ⟨⟨piece, index⟩, hmem, hpiece⟩ := List.exists_of_findSome?_eq_some h
  obtain ⟨-, rfl⟩ := ofCircles?_eq_some hpiece
  exact ⟨piece, List.mk_mem_zipIdx_iff_getElem?.mp hmem, rfl⟩

theorem withCoral?_congr [Scalar.Metric R] {p q : Point R} (hx : (p.x == q.x) = true)
    (hy : (p.y == q.y) = true) (factor : R) (coral : List (CoralPiece R)) :
    withCoral? p factor coral = withCoral? q factor coral := by
  unfold withCoral? ofCircles?
  simp only [Point.distance_eq hx hy]

end Contact

end ReefRover
