import ReefRover.Proofs.Machine.Rest

/-!
This module contains how the frames of a path hang together. The innermost body tells how far the
frames around it have come, and of two paths the one with less left has gone back in no body.
-/

namespace ReefRover

namespace Script

variable {R : Type} {s : Script R}

def sizeFrom (s : Script R) (slot : Slot) : Nat :=
  Program.size ((s.ops slot.body).drop slot.position)

theorem load_eq_of_slots {frames frames' : List Frame}
    (h : frames.map Frame.slot = frames'.map Frame.slot) : s.load frames = s.load frames' := by
  have hload : ∀ frames : List Frame,
      s.load frames = ((frames.map Frame.slot).map s.sizeFrom).sum := by
    intro frames
    rw [List.map_map]
    rfl
  rw [hload, hload, h]

namespace Path

variable [Scalar R] {frame frame' : Frame} {below below' above : List Frame}

theorem outer_eq (htree : s.Tree) (h : s.Path (frame :: below)) {slot : Slot} {instr : Instr R}
    (hinstr : s.instr? slot = some instr) (hmem : frame.body ∈ instr.bodies) :
    ∃ outer rest, below = outer :: rest ∧ outer.body = slot.body ∧
      outer.next = slot.position + 1 := by
  cases h with
  | outermost hbody =>
    have hlater := htree.later slot instr hinstr frame.body hmem
    rw [hbody] at hlater
    exact absurd hlater (Nat.not_lt_zero _)
  | inside hpath hnext hinstr' hruns =>
    have hslot := htree.slot_eq_of_mem_bodies hinstr hinstr' hmem hruns.mem_bodies
    rw [hslot]
    exact ⟨_, _, rfl, rfl, hnext⟩

theorem slots_eq (htree : s.Tree) (h : s.Path (frame :: below)) (h' : s.Path (frame' :: below'))
    (hbody : frame.body = frame'.body) : below.map Frame.slot = below'.map Frame.slot := by
  -- a body is named in one place only, so the next frame around it stands just past that place
  induction below generalizing frame frame' below' with
  | nil =>
    cases h' with
    | outermost hroot => rfl
    | inside hpath hnext hinstr hruns =>
      have hmem := hruns.mem_bodies
      rw [← hbody] at hmem
      obtain ⟨outer, rest, hnil, -⟩ := h.outer_eq htree hinstr hmem
      cases hnil
  | cons outer below ih =>
    cases h with
    | inside hpath hnext hinstr hruns =>
      have hmem := hruns.mem_bodies
      rw [hbody] at hmem
      obtain ⟨outer', rest', rfl, hbody', hnext'⟩ := h'.outer_eq htree hinstr hmem
      have hslot : outer.slot = outer'.slot := by
        unfold Frame.slot
        rw [hbody', hnext', hnext]
      rw [List.map_cons, List.map_cons, hslot, ih hpath h'.tail hbody'.symm]

theorem pairwise_body (htree : s.Tree) {frames : List Frame} (h : s.Path frames) :
    frames.Pairwise fun inner outer => outer.body.index < inner.body.index := by
  induction h with
  | empty => exact .nil
  | outermost hbody => exact List.pairwise_singleton _ _
  | @inside inner outer below position instr hpath hnext hinstr hruns hfits ih =>
    have hlater := htree.later _ _ hinstr inner.body hruns.mem_bodies
    apply List.Pairwise.cons _ ih
    intro frame hmem
    rcases List.mem_cons.mp hmem with rfl | hmem
    . exact hlater
    . exact Nat.lt_trans (List.rel_of_pairwise_cons ih hmem) hlater

theorem eq_of_body_eq (htree : s.Tree) {frames : List Frame} (h : s.Path frames)
    (hmem : frame ∈ frames) (hmem' : frame' ∈ frames) (hbody : frame.body = frame'.body) :
    frame = frame' := by
  have hnodup : (frames.map Frame.body).Nodup := by
    apply List.pairwise_map.mpr
    apply (h.pairwise_body htree).imp
    intro inner outer hlt heq
    rw [heq] at hlt
    exact Nat.lt_irrefl _ hlt
  exact List.inj_on_of_nodup_map hnodup hmem hmem' hbody

theorem load_add_lt (htree : s.Tree) (h : s.Path (above ++ frame :: below)) {n : Nat}
    (hnext : frame.next = n + 1) :
    s.load above + Program.size (frame.rest s) < s.sizeFrom ⟨frame.body, n⟩ := by
  cases above with
  | nil =>
    have hfits := h.fits
    have hlt : n < (s.body frame.body).size := by
      have := hfits.next_le
      omega
    have hinstr : s.instr? ⟨frame.body, n⟩ = some (s.body frame.body)[n] :=
      Array.getElem?_eq_getElem hlt
    have hdrop := Script.drop_ops_of_instr? htree hinstr
    have hrest : frame.rest s = (s.ops frame.body).drop (n + 1) := by
      unfold Frame.rest
      rw [hnext]
    unfold sizeFrom
    dsimp only at hdrop ⊢
    rw [hdrop, Program.size_cons, ← hrest, load_nil]
    unfold Op.size
    omega
  | cons inner above =>
    obtain ⟨m, hnext', hlt⟩ := h.load_above_lt htree
    have hm : m = n := by omega
    subst hm
    have hrest := size_rest_le (s := s) inner
    rw [load_cons]
    unfold sizeFrom
    dsimp only
    omega

theorem next_le_of_load_le (htree : s.Tree) {frames frames' : List Frame} (h : s.Path frames)
    (h' : s.Path frames') (hload : s.load frames' ≤ s.load frames) (hmem : frame ∈ frames)
    (hmem' : frame' ∈ frames') (hbody : frame.body = frame'.body) : frame.next ≤ frame'.next := by
  obtain ⟨above, below, rfl⟩ := List.append_of_mem hmem
  obtain ⟨above', below', rfl⟩ := List.append_of_mem hmem'
  have hslots := (h.of_suffix (List.suffix_append _ _)).slots_eq htree
    (h'.of_suffix (List.suffix_append _ _)) hbody
  have hbelow := load_eq_of_slots (s := s) hslots
  -- a frame that has gone back has its block to do again, which is more than was left inside it
  apply Nat.le_of_not_lt
  intro hlt
  obtain ⟨n, hn⟩ := Nat.exists_eq_succ_of_ne_zero (Nat.ne_zero_of_lt hlt)
  have hadd := h.load_add_lt htree hn
  have hfrom : s.sizeFrom ⟨frame.body, n⟩ ≤ Program.size (frame'.rest s) := by
    have hdrop := Program.size_drop_le ((s.ops frame'.body).drop frame'.next) (n - frame'.next)
    rw [List.drop_drop, Nat.add_sub_cancel' (by omega)] at hdrop
    unfold sizeFrom Frame.rest
    rw [hbody]
    exact hdrop
  rw [load_append, load_append, load_cons, load_cons] at hload
  omega

end Path

end Script

end ReefRover
