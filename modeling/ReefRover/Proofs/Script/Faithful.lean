import ReefRover.Proofs.Script.Lowering

/-!
This module contains the proof that flattening a program loses and invents nothing: the script of a
program is a tree, and reading it back gives the program. All inductions are over the bodies that
are filled one after the other.
-/

namespace ReefRover

namespace Script

variable {R : Type}

namespace Builder

theorem bodyCount_le_complete (b : Builder R) : b.script.bodyCount ≤ b.complete.bodyCount := by
  induction b using fillInduction with
  | done b hp => rw [complete_of_nil hp]
  | fill b id ops rest hp ih =>
    rw [fillFirst_bodyCount] at ih
    rw [complete_of_cons hp]
    omega

theorem condition?_complete {b : Builder R} {c : CondId} {e : Expr R}
    (h : b.condition? c = some e) : b.complete.condition? c = some e := by
  induction b using fillInduction with
  | done b hp =>
    rw [complete_of_nil hp]
    exact h
  | fill b id ops rest hp ih =>
    rw [complete_of_cons hp]
    apply ih
    have hextend : (b.extend (ops.flatMap Op.conditions) (ops.flatMap Op.bodies)).condition? c =
        some e := condition?_extend h
    rw [condition?, extend] at hextend
    rw [condition?, fillFirst_conditions]
    exact hextend

theorem ne_of_mem_fillFirst_pending {b : Builder R} {first id : BodyId} {ops : List (Op R)}
    {rest : List (BodyId × List (Op R))} (hlt : id.index < b.script.bodyCount)
    (hrest : ∀ p ∈ rest, p.1 ≠ id) :
    ∀ p ∈ (b.fillFirst first ops rest).pending, p.1 ≠ id := by
  intro p hmem
  rw [fillFirst_pending, List.mem_append, List.mem_reverse] at hmem
  rcases hmem with hnew | hold
  . have hle := (le_of_mem_nameFrom hnew).1
    rintro rfl
    rw [bodyCount] at hlt
    omega
  . exact hrest p hold

theorem body_complete {b : Builder R} {id : BodyId} (hlt : id.index < b.script.bodyCount)
    (hfilled : ∀ p ∈ b.pending, p.1 ≠ id) : b.complete.body id = b.script.body id := by
  induction b using fillInduction with
  | done b hp => rw [complete_of_nil hp]
  | fill b first ops rest hp ih =>
    have hfirst : first ≠ id := hfilled (first, ops) (hp ▸ List.mem_cons_self)
    rw [complete_of_cons hp, ih, fillFirst_body_of_ne b ops rest hfirst]
    . rw [fillFirst_bodyCount]
      omega
    . apply ne_of_mem_fillFirst_pending hlt
      intro p hmem
      exact hfilled p (hp ▸ List.mem_cons_of_mem _ hmem)

theorem tree_complete {b : Builder R} (h : b.Sound) : b.complete.Tree := by
  induction b using fillInduction with
  | done b hp =>
    rw [complete_of_nil hp]
    exact h.tree
  | fill b id ops rest hp ih =>
    rw [complete_of_cons hp]
    exact ih (h.fillFirst hp)

theorem readBody?_complete_first {b : Builder R} (h : b.Sound) {id : BodyId} {ops : List (Op R)}
    {rest : List (BodyId × List (Op R))} (hp : b.pending = (id, ops) :: rest)
    (hread : ∀ p ∈ (b.fillFirst id ops rest).pending, b.complete.readBody? p.1 = some p.2) :
    b.complete.readBody? id = some ops := by
  have hlt := h.first_lt hp
  have hbody : b.complete.body id = (b.content ops rest).toArray := by
    rw [complete_of_cons hp, body_complete, fillFirst_body_self b ops rest hlt]
    . rw [fillFirst_bodyCount]
      omega
    . apply ne_of_mem_fillFirst_pending hlt
      intro p hmem
      exact (h.first_ne hp hmem).symm
  rw [readBody?_eq_some_iff]
  refine ⟨Nat.lt_of_lt_of_le hlt (bodyCount_le_complete b), ?_⟩
  have hblocks := instrs_run_block? ops { b with pending := rest }
  rw [hbody]
  rw [List.forall₂_iff_zip] at hblocks ⊢
  refine ⟨hblocks.1, ?_⟩
  intro instr op hmem
  -- the blocks are known by the names given to their parts; those names keep what they stand for
  apply Instr.block?_mono _ _ (hblocks.2 hmem)
  . intro c _ e he
    rw [complete_of_cons hp]
    apply condition?_complete
    rw [fillFirst_eq]
    exact he
  . intro inner hinner body hbody?
    have hmem' : (inner, body) ∈ (b.fillFirst id ops rest).pending := by
      rw [fillFirst_eq]
      exact mem_pending_of_body? hbody?
    have hcontent : inner ∈ (b.content ops rest).flatMap Instr.bodies :=
      List.mem_flatMap.mpr ⟨instr, (List.of_mem_zip hmem).1, hinner⟩
    have hnew := (Sound.le_of_mem_content hcontent).1
    rw [readInner?, if_pos (by omega)]
    exact hread (inner, body) hmem'

theorem readBody?_complete {b : Builder R} (h : b.Sound) :
    ∀ p ∈ b.pending, b.complete.readBody? p.1 = some p.2 := by
  induction b using fillInduction with
  | done b hp =>
    intro p hmem
    rw [hp] at hmem
    cases hmem
  | fill b id ops rest hp ih =>
    have hread : ∀ p ∈ (b.fillFirst id ops rest).pending,
        b.complete.readBody? p.1 = some p.2 := by
      rw [complete_of_cons hp]
      exact ih (h.fillFirst hp)
    intro p hmem
    rw [hp, List.mem_cons] at hmem
    rcases hmem with rfl | hrest
    . exact readBody?_complete_first h hp hread
    . apply hread
      rw [fillFirst_pending]
      exact List.mem_append_right _ hrest

theorem names_fillFirst_perm {b : Builder R} {id : BodyId} {ops : List (Op R)}
    {rest : List (BodyId × List (Op R))} (hp : b.pending = (id, ops) :: rest) :
    (rest.map (fun p => p.1.index) ++
        List.range' b.script.bodyCount (b.complete.bodyCount - b.script.bodyCount)).Perm
      ((b.fillFirst id ops rest).pending.map (fun p => p.1.index) ++
        List.range' (b.fillFirst id ops rest).script.bodyCount
          (b.complete.bodyCount - (b.fillFirst id ops rest).script.bodyCount)) := by
  have hle := bodyCount_le_complete (b.fillFirst id ops rest)
  have hcount : b.complete.bodyCount - b.script.bodyCount =
      (ops.flatMap Op.bodies).length +
        (b.complete.bodyCount - (b.fillFirst id ops rest).script.bodyCount) := by
    rw [fillFirst_bodyCount] at hle
    rw [complete_of_cons hp, fillFirst_bodyCount]
    omega
  rw [hcount, ← List.range'_append_1, ← fillFirst_bodyCount, fillFirst_pending,
    List.map_append, List.map_reverse, nameFrom_map_index, ← List.append_assoc]
  apply List.Perm.append_right
  refine List.perm_append_comm.trans ?_
  apply List.Perm.append_right
  exact (List.reverse_perm _).symm

theorem bodies_fillFirst_perm (b : Builder R) (id : BodyId) (ops : List (Op R))
    (rest : List (BodyId × List (Op R))) :
    ((b.fillFirst id ops rest).pending.flatMap fun p => Program.bodies p.2).Perm
      ((ops.flatMap fun op => op.bodies.flatMap Program.bodies) ++
        rest.flatMap fun p => Program.bodies p.2) := by
  rw [fillFirst_pending, List.flatMap_append, ← List.flatMap_assoc]
  apply List.Perm.append_right
  refine ((List.reverse_perm _).flatMap_right _).trans ?_
  rw [← List.flatMap_map (fun p : BodyId × List (Op R) => p.2), nameFrom_map_snd]

theorem readBody?_complete_perm {b : Builder R} (h : b.Sound) :
    ((b.pending.map (fun p => p.1.index) ++
        List.range' b.script.bodyCount (b.complete.bodyCount - b.script.bodyCount)).map
      fun i => b.complete.readBody? ⟨i⟩).Perm
    ((b.pending.flatMap fun p => Program.bodies p.2).map some) := by
  induction b using fillInduction with
  | done b hp => simp [complete_of_nil hp, hp]
  | fill b id ops rest hp ih =>
    have hfirst : b.complete.readBody? id = some ops :=
      readBody?_complete h (id, ops) (hp ▸ List.mem_cons_self)
    have ih := ih (h.fillFirst hp)
    rw [← complete_of_cons hp] at ih
    rw [hp, List.map_cons, List.cons_append, List.map_cons, hfirst, List.flatMap_cons,
      Program.bodies_eq, List.cons_append, List.map_cons]
    apply List.Perm.cons
    -- the names still to come are those put aside by the filling and those after them
    exact (((names_fillFirst_perm hp).map _).trans ih).trans
      ((bodies_fillFirst_perm b id ops rest).map some)

theorem conditions_complete_perm (b : Builder R) :
    b.complete.conditions.toList.Perm
      (b.script.conditions.toList ++
        b.pending.flatMap fun p => (Program.blocks p.2).flatMap Op.conditions) := by
  induction b using fillInduction with
  | done b hp => simp [complete_of_nil hp, hp]
  | fill b id ops rest hp ih =>
    rw [complete_of_cons hp]
    refine ih.trans ?_
    have hnew : ((nameFrom b.script.bodies.size (ops.flatMap Op.bodies)).flatMap
        fun p => (Program.blocks p.2).flatMap Op.conditions) =
          (ops.flatMap fun op => op.bodies.flatMap Program.blocks).flatMap Op.conditions := by
      rw [← List.flatMap_map (fun p : BodyId × List (Op R) => p.2)
        (fun body => (Program.blocks body).flatMap Op.conditions), nameFrom_map_snd]
      simp only [List.flatMap_assoc]
    rw [fillFirst_conditions, fillFirst_pending, Array.toList_append, hp, List.flatMap_append,
      List.flatMap_cons, Program.blocks_eq, List.flatMap_append, List.append_assoc,
      List.append_assoc]
    apply List.Perm.append_left
    apply List.Perm.append_left
    apply List.Perm.append_right
    rw [← hnew]
    exact (List.reverse_perm _).flatMap_right _

end Builder

end Script

end ReefRover
