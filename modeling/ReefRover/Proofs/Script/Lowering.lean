import Mathlib.Data.List.Perm.Basic
import ReefRover.Proofs.Program.Bodies
import ReefRover.Proofs.Script.Naming
import ReefRover.Proofs.Script.Tree

/-!
This module contains what filling one body does to a script under construction. Between two fillings
the names given so far form a tree, and each body put aside has an empty place in the table.
-/

namespace ReefRover

namespace Script

variable {R : Type}

namespace Builder

def fillFirst (b : Builder R) (id : BodyId) (ops : List (Op R))
    (rest : List (BodyId × List (Op R))) : Builder R :=
  let filled := (instrs ops).run { b with pending := rest }
  filled.2.fill id filled.1

theorem complete_of_nil {b : Builder R} (h : b.pending = []) : b.complete = b.script := by
  rw [complete]
  split
  . rfl
  . next h' =>
    rw [h] at h'
    cases h'

theorem complete_of_cons {b : Builder R} {id : BodyId} {ops : List (Op R)}
    {rest : List (BodyId × List (Op R))} (h : b.pending = (id, ops) :: rest) :
    b.complete = (b.fillFirst id ops rest).complete := by
  conv => lhs; rw [complete]
  split
  . next h' =>
    rw [h] at h'
    cases h'
  . next h' =>
    rw [h] at h'
    cases h'
    rfl

theorem remaining_fillFirst_lt {b : Builder R} {id : BodyId} {ops : List (Op R)}
    {rest : List (BodyId × List (Op R))} (h : b.pending = (id, ops) :: rest) :
    (b.fillFirst id ops rest).remaining < b.remaining := by
  have hs := remaining_instrs ops { b with pending := rest }
  simp only [fillFirst, fill, remaining, h, List.foldr_cons] at hs ⊢
  omega

theorem fillInduction {P : Builder R → Prop} (done : ∀ b, b.pending = [] → P b)
    (fill : ∀ b id ops rest, b.pending = (id, ops) :: rest → P (b.fillFirst id ops rest) → P b)
    (b : Builder R) : P b := by
  match h : b.pending with
  | [] => exact done b h
  | (id, ops) :: rest =>
    apply fill b id ops rest h
    exact fillInduction done fill (b.fillFirst id ops rest)
termination_by b.remaining
decreasing_by exact remaining_fillFirst_lt h

def named (b : Builder R) (ops : List (Op R)) (rest : List (BodyId × List (Op R))) : Builder R :=
  { b with pending := rest }.extend (ops.flatMap Op.conditions) (ops.flatMap Op.bodies)

def content (b : Builder R) (ops : List (Op R)) (rest : List (BodyId × List (Op R))) :
    List (Instr R) :=
  ((instrs ops).run { b with pending := rest }).1

theorem fillFirst_eq (b : Builder R) (id : BodyId) (ops : List (Op R))
    (rest : List (BodyId × List (Op R))) :
    b.fillFirst id ops rest = (b.named ops rest).fill id (b.content ops rest) := by
  rw [fillFirst, instrs_run_snd]
  rfl

theorem fillFirst_pending (b : Builder R) (id : BodyId) (ops : List (Op R))
    (rest : List (BodyId × List (Op R))) :
    (b.fillFirst id ops rest).pending =
      (nameFrom b.script.bodies.size (ops.flatMap Op.bodies)).reverse ++ rest := by
  rw [fillFirst_eq]
  rfl

theorem fillFirst_conditions (b : Builder R) (id : BodyId) (ops : List (Op R))
    (rest : List (BodyId × List (Op R))) :
    (b.fillFirst id ops rest).script.conditions =
      b.script.conditions ++ (ops.flatMap Op.conditions).toArray := by
  rw [fillFirst_eq]
  rfl

theorem fillFirst_bodies (b : Builder R) (id : BodyId) (ops : List (Op R))
    (rest : List (BodyId × List (Op R))) :
    (b.fillFirst id ops rest).script.bodies =
      (b.script.bodies ++ Array.replicate (ops.flatMap Op.bodies).length #[]).setIfInBounds
        id.index (b.content ops rest).toArray := by
  rw [fillFirst_eq]
  rfl

theorem fillFirst_bodyCount (b : Builder R) (id : BodyId) (ops : List (Op R))
    (rest : List (BodyId × List (Op R))) :
    (b.fillFirst id ops rest).script.bodyCount =
      b.script.bodyCount + (ops.flatMap Op.bodies).length := by
  simp [bodyCount, fillFirst_bodies]

theorem fillFirst_body_self (b : Builder R) {id : BodyId} (ops : List (Op R))
    (rest : List (BodyId × List (Op R))) (h : id.index < b.script.bodyCount) :
    (b.fillFirst id ops rest).script.body id = (b.content ops rest).toArray := by
  have hlt : id.index <
      (b.script.bodies ++ Array.replicate (ops.flatMap Op.bodies).length #[]).size := by
    rw [bodyCount] at h
    rw [Array.size_append]
    omega
  rw [body, fillFirst_bodies, Array.getElem?_setIfInBounds_self_of_lt hlt]
  rfl

theorem fillFirst_body_of_ne (b : Builder R) {id id' : BodyId} (ops : List (Op R))
    (rest : List (BodyId × List (Op R))) (h : id ≠ id') :
    (b.fillFirst id ops rest).script.body id' = b.script.body id' := by
  have hne : id.index ≠ id'.index := BodyId.index_injective.ne h
  rw [body, fillFirst_bodies, Array.getElem?_setIfInBounds_ne hne, body, Array.getElem?_append]
  split
  . rfl
  . next hge =>
    have hnone : b.script.bodies[id'.index]? = none := Array.getElem?_eq_none (by omega)
    rw [Array.getElem?_replicate, hnone]
    split <;> rfl

end Builder

theorem flatMap_set_perm {α β : Type} {xs : List α} {i : Nat} {x : α} {f : α → List β}
    (hi : i < xs.length) (hempty : f xs[i] = []) :
    ((xs.set i x).flatMap f).Perm (f x ++ xs.flatMap f) := by
  have hxs : xs.flatMap f = (xs.take i).flatMap f ++ (xs.drop (i + 1)).flatMap f := by
    conv => lhs; rw [← List.take_append_drop i xs, ← List.getElem_cons_drop hi]
    rw [List.flatMap_append, List.flatMap_cons, hempty, List.nil_append]
  rw [List.set_eq_take_append_cons_drop, if_pos hi, List.flatMap_append, List.flatMap_cons, hxs]
  apply List.perm_append_comm_assoc

namespace Builder

theorem flatMap_fillFirst_perm {α : Type} (f : Instr R → List α) {b : Builder R} {id : BodyId}
    (ops : List (Op R)) (rest : List (BodyId × List (Op R))) (hlt : id.index < b.script.bodyCount)
    (hempty : b.script.body id = #[]) :
    ((b.fillFirst id ops rest).script.bodies.toList.flatMap fun body => body.toList.flatMap f).Perm
      ((b.content ops rest).flatMap f ++
        b.script.bodies.toList.flatMap fun body => body.toList.flatMap f) := by
  rw [bodyCount] at hlt
  rw [body, Array.getElem?_eq_getElem hlt, Option.getD_some] at hempty
  rw [fillFirst_bodies, Array.toList_setIfInBounds]
  refine (flatMap_set_perm ?_ ?_).trans ?_
  . simp
    omega
  . simp [List.getElem_append_left, hlt, hempty]
  . have hnew : (List.replicate (ops.flatMap Op.bodies).length (#[] : Array (Instr R))).flatMap
        (fun body => body.toList.flatMap f) = [] := by
      simp [List.flatMap_eq_nil_iff]
    rw [Array.toList_append, Array.toList_replicate, List.flatMap_append, hnew, List.append_nil]

/--
Between two fillings, the names given so far form a tree, and each body put aside has a place of its
own in the table, which is still empty.
-/
structure Sound (b : Builder R) : Prop where
  tree : b.script.Tree
  pending_lt : ∀ p ∈ b.pending, p.1.index < b.script.bodyCount
  pending_nodup : (b.pending.map fun p => p.1.index).Nodup
  pending_empty : ∀ p ∈ b.pending, b.script.body p.1 = #[]

namespace Sound

variable {b : Builder R} {id : BodyId} {ops : List (Op R)} {rest : List (BodyId × List (Op R))}

theorem first_lt (h : b.Sound) (hp : b.pending = (id, ops) :: rest) :
    id.index < b.script.bodyCount :=
  h.pending_lt (id, ops) (hp ▸ List.mem_cons_self)

theorem first_empty (h : b.Sound) (hp : b.pending = (id, ops) :: rest) :
    b.script.body id = #[] :=
  h.pending_empty (id, ops) (hp ▸ List.mem_cons_self)

theorem first_ne (h : b.Sound) (hp : b.pending = (id, ops) :: rest) {p : BodyId × List (Op R)}
    (hmem : p ∈ rest) : id ≠ p.1 := by
  have hnodup := h.pending_nodup
  rw [hp, List.map_cons, List.nodup_cons] at hnodup
  rintro rfl
  exact hnodup.1 (List.mem_map_of_mem (f := fun p => p.1.index) hmem)

theorem le_of_mem_content {inner : BodyId}
    (hinner : inner ∈ (b.content ops rest).flatMap Instr.bodies) :
    b.script.bodyCount ≤ inner.index ∧
      inner.index < b.script.bodyCount + (ops.flatMap Op.bodies).length := by
  rw [content, instrs_run_bodies, List.mem_map] at hinner
  obtain ⟨i, hi, rfl⟩ := hinner
  exact List.mem_range'_1.mp hi

theorem tree_fillFirst (h : b.Sound) (hp : b.pending = (id, ops) :: rest) :
    (b.fillFirst id ops rest).script.Tree where
  root_lt := by
    have := h.tree.root_lt
    rw [fillFirst_bodyCount]
    omega
  bodies_perm := by
    have hroot := h.tree.root_lt
    have hsplit : List.range' 1 (b.script.bodyCount + (ops.flatMap Op.bodies).length - 1) =
        List.range' 1 (b.script.bodyCount - 1) ++
          List.range' b.script.bodyCount (ops.flatMap Op.bodies).length := by
      have hstart : b.script.bodyCount = 1 + (b.script.bodyCount - 1) := by omega
      conv => rhs; rhs; rw [hstart]
      rw [List.range'_append_1]
      congr 1
      omega
    rw [fillFirst_bodyCount, hsplit]
    refine ((flatMap_fillFirst_perm Instr.bodies ops rest (h.first_lt hp)
      (h.first_empty hp)).map BodyId.index).trans ?_
    rw [List.map_append, content, instrs_run_bodies, List.map_map]
    refine List.perm_append_comm.trans ?_
    apply h.tree.bodies_perm.append
    rw [show BodyId.index ∘ BodyId.mk = fun i => i from rfl, List.map_id']
    rfl
  conditions_perm := by
    refine ((flatMap_fillFirst_perm Instr.conditions ops rest (h.first_lt hp)
      (h.first_empty hp)).map CondId.index).trans ?_
    rw [List.map_append, content, instrs_run_conditions, List.map_map, fillFirst_conditions,
      Array.size_append, List.size_toArray, List.range_eq_range', ← List.range'_append_1]
    refine List.perm_append_comm.trans ?_
    rw [← List.range_eq_range', Nat.zero_add]
    apply h.tree.conditions_perm.append
    rw [show CondId.index ∘ CondId.mk = fun i => i from rfl, List.map_id']
    rfl
  later := by
    intro slot instr hinstr inner hinner
    by_cases hid : id = slot.body
    -- an instruction of the body just filled names only bodies that were not there before
    . subst hid
      rw [instr?, fillFirst_body_self b ops rest (h.first_lt hp)] at hinstr
      have hmem : instr ∈ b.content ops rest := List.mem_of_getElem? (by simpa using hinstr)
      have := h.first_lt hp
      have := le_of_mem_content (List.mem_flatMap.mpr ⟨instr, hmem, hinner⟩)
      omega
    . rw [instr?, fillFirst_body_of_ne b ops rest hid] at hinstr
      exact h.tree.later slot instr hinstr inner hinner

theorem fillFirst (h : b.Sound) (hp : b.pending = (id, ops) :: rest) :
    (b.fillFirst id ops rest).Sound where
  tree := h.tree_fillFirst hp
  pending_lt := by
    intro p hmem
    rw [fillFirst_pending, List.mem_append, List.mem_reverse] at hmem
    rw [fillFirst_bodyCount]
    rcases hmem with hnew | hrest
    . exact (le_of_mem_nameFrom hnew).2
    . have := h.pending_lt p (hp ▸ List.mem_cons_of_mem _ hrest)
      omega
  pending_nodup := by
    have hnodup := h.pending_nodup
    rw [hp, List.map_cons, List.nodup_cons] at hnodup
    rw [fillFirst_pending, List.map_append, List.map_reverse, nameFrom_map_index,
      List.nodup_append]
    refine ⟨List.nodup_reverse.mpr List.nodup_range', hnodup.2, ?_⟩
    intro i hi j hj heq
    obtain ⟨p, hmem, rfl⟩ := List.mem_map.mp hj
    have hlt := h.pending_lt p (hp ▸ List.mem_cons_of_mem _ hmem)
    rw [List.mem_reverse, List.mem_range'_1] at hi
    rw [bodyCount] at hlt
    omega
  pending_empty := by
    intro p hmem
    rw [fillFirst_pending, List.mem_append, List.mem_reverse] at hmem
    rcases hmem with hnew | hrest
    . have hle := (le_of_mem_nameFrom hnew).1
      have hlt := h.first_lt hp
      rw [bodyCount] at hlt
      rw [fillFirst_body_of_ne b ops rest, body, Array.getElem?_eq_none hle]
      . rfl
      . rintro rfl
        omega
    . rw [fillFirst_body_of_ne b ops rest (h.first_ne hp hrest)]
      exact h.pending_empty p (hp ▸ List.mem_cons_of_mem _ hrest)

end Sound

end Builder

end Script

end ReefRover
