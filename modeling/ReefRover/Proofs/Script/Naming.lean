import ReefRover.Proofs.Script.Reading

/-!
This module contains what happens while the instructions of a body are made: the conditions and
bodies inside the blocks are given the next names in order, the conditions are stored and the bodies
are put aside.
-/

namespace ReefRover

theorem BodyId.mk_beq (i j : Nat) : (BodyId.mk i == BodyId.mk j) = decide (i = j) := by
  rw [Bool.eq_iff_iff]
  simp

namespace Script

variable {R : Type}

def nameFrom (next : Nat) (bodies : List (List (Op R))) : List (BodyId × List (Op R)) :=
  (bodies.zipIdx next).map fun p => (⟨p.2⟩, p.1)

theorem nameFrom_append (next : Nat) (bodies bodies' : List (List (Op R))) :
    nameFrom next (bodies ++ bodies') =
      nameFrom next bodies ++ nameFrom (next + bodies.length) bodies' := by
  simp [nameFrom, List.zipIdx_append]

theorem nameFrom_map_index (next : Nat) (bodies : List (List (Op R))) :
    (nameFrom next bodies).map (fun p => p.1.index) = List.range' next bodies.length := by
  rw [nameFrom, List.map_map]
  apply List.zipIdx_map_snd

theorem nameFrom_map_snd (next : Nat) (bodies : List (List (Op R))) :
    (nameFrom next bodies).map (fun p => p.2) = bodies := by
  rw [nameFrom, List.map_map]
  apply List.zipIdx_map_fst

theorem le_of_mem_nameFrom {next : Nat} {bodies : List (List (Op R))} {p : BodyId × List (Op R)}
    (h : p ∈ nameFrom next bodies) : next ≤ p.1.index ∧ p.1.index < next + bodies.length := by
  have hmem := List.mem_map_of_mem (f := fun p => p.1.index) h
  rw [nameFrom_map_index, List.mem_range'_1] at hmem
  exact hmem

namespace Builder

def extend (b : Builder R) (conditions : List (Expr R)) (bodies : List (List (Op R))) :
    Builder R :=
  { script :=
      { bodies := b.script.bodies ++ Array.replicate bodies.length #[]
        conditions := b.script.conditions ++ conditions.toArray }
    pending := (nameFrom b.script.bodies.size bodies).reverse ++ b.pending }

def condition? (b : Builder R) (id : CondId) : Option (Expr R) :=
  b.script.conditions[id.index]?

def body? (b : Builder R) (id : BodyId) : Option (List (Op R)) :=
  b.pending.lookup id

theorem mem_pending_of_body? {b : Builder R} {id : BodyId} {ops : List (Op R)}
    (h : b.body? id = some ops) : (id, ops) ∈ b.pending := by
  obtain ⟨before, after, hpending, -⟩ := List.lookup_eq_some_iff.mp h
  rw [hpending]
  exact List.mem_append_right _ List.mem_cons_self

theorem extend_extend (b : Builder R) (conditions conditions' : List (Expr R))
    (bodies bodies' : List (List (Op R))) :
    (b.extend conditions bodies).extend conditions' bodies' =
      b.extend (conditions ++ conditions') (bodies ++ bodies') := by
  simp [extend, nameFrom_append, Array.append_assoc]

@[simp]
theorem extend_nil (b : Builder R) : b.extend [] [] = b := by
  simp [extend, nameFrom]

theorem condition?_extend {b : Builder R} {conditions : List (Expr R)}
    {bodies : List (List (Op R))} {id : CondId} {e : Expr R} (h : b.condition? id = some e) :
    (b.extend conditions bodies).condition? id = some e := by
  have hlt : id.index < b.script.conditions.size := by
    by_contra hge
    simp [condition?, hge] at h
  rw [condition?, extend, Array.getElem?_append_left hlt]
  exact h

theorem body?_extend {b : Builder R} {conditions : List (Expr R)} {bodies : List (List (Op R))}
    {id : BodyId} (h : id.index < b.script.bodies.size) :
    (b.extend conditions bodies).body? id = b.body? id := by
  rw [body?, extend, List.lookup_append, body?]
  suffices hnone : (nameFrom b.script.bodies.size bodies).reverse.lookup id = none by
    rw [hnone, Option.none_or]
  rw [List.lookup_eq_none_iff]
  intro p hp
  rw [List.mem_reverse] at hp
  have := (le_of_mem_nameFrom hp).1
  rw [bne_iff_ne]
  rintro rfl
  omega

theorem pure_apply {α : Type} (a : α) (b : Builder R) :
    (pure a : StateM (Builder R) α) b = (a, b) :=
  rfl

theorem nameCondition_apply (e : Expr R) (b : Builder R) :
    nameCondition e b = (⟨b.script.conditions.size⟩, b.extend [e] []) := by
  simp [nameCondition, extend, nameFrom, modifyGet, MonadStateOf.modifyGet, StateT.modifyGet, pure]

theorem nameBody_apply (ops : List (Op R)) (b : Builder R) :
    nameBody ops b = (⟨b.script.bodies.size⟩, b.extend [] [ops]) := by
  simp [nameBody, extend, nameFrom, modifyGet, MonadStateOf.modifyGet, StateT.modifyGet, pure]

theorem instr_run_snd (op : Op R) (b : Builder R) :
    ((instr op).run b).2 = b.extend op.conditions op.bodies := by
  cases op <;>
    simp [instr, StateT.run, bind, StateT.bind, pure_apply, nameCondition_apply,
      nameBody_apply, extend_extend, Op.conditions, Op.bodies]

theorem instr_run_bodies (op : Op R) (b : Builder R) :
    ((instr op).run b).1.bodies =
      (List.range' b.script.bodies.size op.bodies.length).map BodyId.mk := by
  cases op <;>
    simp [instr, StateT.run, bind, StateT.bind, pure_apply, nameCondition_apply,
      nameBody_apply, extend, Op.bodies, Instr.bodies, List.range']

theorem instr_run_conditions (op : Op R) (b : Builder R) :
    ((instr op).run b).1.conditions =
      (List.range' b.script.conditions.size op.conditions.length).map CondId.mk := by
  cases op <;>
    simp [instr, StateT.run, bind, StateT.bind, pure_apply, nameCondition_apply,
      nameBody_apply, extend, Op.conditions, Instr.conditions, List.range']

theorem instr_run_block? (op : Op R) (b : Builder R) :
    let b' := b.extend op.conditions op.bodies
    ((instr op).run b).1.block? b'.condition? b'.body? = some op := by
  cases op <;>
    simp [instr, StateT.run, bind, StateT.bind, pure_apply, nameCondition_apply,
      nameBody_apply, extend, Op.conditions, Op.bodies, Instr.block?, condition?, body?, nameFrom,
      List.lookup_cons, BodyId.mk_beq, Nat.add_assoc]

theorem instrs_run_snd (ops : List (Op R)) (b : Builder R) :
    ((instrs ops).run b).2 = b.extend (ops.flatMap Op.conditions) (ops.flatMap Op.bodies) := by
  induction ops generalizing b with
  | nil => exact (extend_nil b).symm
  | cons op ops ih =>
    have hrun : ((instrs (op :: ops)).run b).2 = ((instrs ops).run ((instr op).run b).2).2 := rfl
    rw [hrun, ih, instr_run_snd, extend_extend]
    rfl

theorem instrs_run_bodies (ops : List (Op R)) (b : Builder R) :
    ((instrs ops).run b).1.flatMap Instr.bodies =
      (List.range' b.script.bodies.size (ops.flatMap Op.bodies).length).map BodyId.mk := by
  induction ops generalizing b with
  | nil => rfl
  | cons op ops ih =>
    have hrun : ((instrs (op :: ops)).run b).1 =
        ((instr op).run b).1 :: ((instrs ops).run ((instr op).run b).2).1 := rfl
    rw [hrun, List.flatMap_cons, ih, instr_run_bodies, instr_run_snd]
    simp [extend, ← List.map_append]

theorem instrs_run_conditions (ops : List (Op R)) (b : Builder R) :
    ((instrs ops).run b).1.flatMap Instr.conditions =
      (List.range' b.script.conditions.size (ops.flatMap Op.conditions).length).map
        CondId.mk := by
  induction ops generalizing b with
  | nil => rfl
  | cons op ops ih =>
    have hrun : ((instrs (op :: ops)).run b).1 =
        ((instr op).run b).1 :: ((instrs ops).run ((instr op).run b).2).1 := rfl
    rw [hrun, List.flatMap_cons, ih, instr_run_conditions, instr_run_snd]
    simp [extend, ← List.map_append]

theorem instrs_run_block? (ops : List (Op R)) (b : Builder R) :
    let b' := b.extend (ops.flatMap Op.conditions) (ops.flatMap Op.bodies)
    List.Forall₂ (fun instr op => instr.block? b'.condition? b'.body? = some op)
      ((instrs ops).run b).1 ops := by
  induction ops generalizing b with
  | nil => exact .nil
  | cons op ops ih =>
    have hrun : ((instrs (op :: ops)).run b).1 =
        ((instr op).run b).1 :: ((instrs ops).run ((instr op).run b).2).1 := rfl
    have hextend : b.extend ((op :: ops).flatMap Op.conditions) ((op :: ops).flatMap Op.bodies) =
        (b.extend op.conditions op.bodies).extend (ops.flatMap Op.conditions)
          (ops.flatMap Op.bodies) := by
      rw [extend_extend]
      rfl
    rw [hrun, hextend]
    constructor
    -- what the first instruction names is still known when the others have been named
    . apply Instr.block?_mono _ _ (instr_run_block? op b)
      . intro c _ e he
        exact condition?_extend he
      . intro id hid body hbody
        rw [body?_extend]
        . exact hbody
        . rw [instr_run_bodies, List.mem_map] at hid
          obtain ⟨i, hi, rfl⟩ := hid
          rw [List.mem_range'_1] at hi
          simpa [extend] using hi.2
    . rw [instr_run_snd]
      apply ih

end Builder

end Script

end ReefRover
