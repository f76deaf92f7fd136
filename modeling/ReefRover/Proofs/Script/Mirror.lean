import ReefRover.Proofs.Script.Faithful

/-!
This module contains what it means that a script is a program in flat form, no more and no less, and
the proof that the script of a program is.
-/

namespace ReefRover

namespace Script

variable {R : Type}

/-- Where a name stands: in which instruction, and at which of the positions for such names. -/
structure Mention where
  slot : Slot
  position : Nat
deriving DecidableEq, Repr

def bodyAt? (s : Script R) (m : Mention) : Option BodyId := do
  (← s.instr? m.slot).bodies[m.position]?

def conditionAt? (s : Script R) (m : Mention) : Option CondId := do
  (← s.instr? m.slot).conditions[m.position]?

structure Mirrors (s : Script R) (p : Program R) : Prop where
  read_root : s.readBody? root = some p
  body_lt : ∀ m id, s.bodyAt? m = some id → id.index < s.bodyCount
  body_later : ∀ m id, s.bodyAt? m = some id → m.slot.body.index < id.index
  body_once : ∀ id, id ≠ root → id.index < s.bodyCount → ∃! m, s.bodyAt? m = some id
  root_unnamed : ∀ m, s.bodyAt? m ≠ some root
  condition_lt : ∀ m id, s.conditionAt? m = some id → id.index < s.conditions.size
  condition_once : ∀ id, id.index < s.conditions.size → ∃! m, s.conditionAt? m = some id
  /-- The bodies of the table are those of the program, so none is left without its content. -/
  bodies_filled :
    ((List.range s.bodyCount).map fun i => s.readBody? ⟨i⟩).Perm ((Program.bodies p).map some)
  conditions_kept : s.conditions.toList.Perm ((Program.blocks p).flatMap Op.conditions)
  /-- Names that are stored in 32 bits are not cut off. -/
  body_fits : Op.bodiesWithin p < 2 ^ 32 → ∀ m id, s.bodyAt? m = some id → id.index < 2 ^ 32
  condition_fits : ((Program.blocks p).flatMap Op.conditions).length < 2 ^ 32 →
    ∀ m id, s.conditionAt? m = some id → id.index < 2 ^ 32
  bodyCount_eq : s.bodyCount = 1 + Op.bodiesWithin p
  instrCount_eq : s.instrCount = Program.size p

theorem bodyAt?_eq_some_iff {s : Script R} {m : Mention} {id : BodyId} :
    s.bodyAt? m = some id ↔
      ∃ instr, s.instr? m.slot = some instr ∧ instr.bodies[m.position]? = some id := by
  simp [bodyAt?, bind, Option.bind_eq_some_iff]

theorem conditionAt?_eq_some_iff {s : Script R} {m : Mention} {id : CondId} :
    s.conditionAt? m = some id ↔
      ∃ instr, s.instr? m.slot = some instr ∧ instr.conditions[m.position]? = some id := by
  simp [conditionAt?, bind, Option.bind_eq_some_iff]

theorem instrCount_eq_sum (s : Script R) :
    s.instrCount = ((List.range s.bodyCount).map fun i => (s.body ⟨i⟩).size).sum := by
  have hsizes : s.bodies.toList.map Array.size =
      (List.range s.bodyCount).map fun i => (s.body ⟨i⟩).size := by
    apply List.ext_getElem
    . simp [bodyCount]
    . intro i hi hi'
      have hlt : i < s.bodies.size := by simpa using hi
      simp [body, hlt]
  rw [instrCount, ← Array.foldl_toList, ← hsizes, List.sum_eq_foldl, List.foldl_map]

namespace Builder

def start (p : Program R) : Builder R :=
  { script := { bodies := #[#[]], conditions := #[] }, pending := [(root, p)] }

theorem sound_start (p : Program R) : (start p).Sound where
  tree :=
    { root_lt := Nat.zero_lt_one
      bodies_perm := by rfl
      conditions_perm := by rfl
      later := by
        intro slot instr hinstr
        exfalso
        have hmem := mem_flatMap_slots (f := fun instr => [instr]) (a := instr)
          (s := (start p).script)
        have := hmem.mpr ⟨slot, instr, hinstr, List.mem_singleton.mpr rfl⟩
        simp [start] at this }
  pending_lt := by
    intro p' hmem
    rw [start, List.mem_singleton] at hmem
    subst hmem
    exact Nat.zero_lt_one
  pending_nodup := by simp [start]
  pending_empty := by
    intro p' hmem
    rw [start, List.mem_singleton] at hmem
    subst hmem
    rfl

end Builder

theorem tree_ofProgram (p : Program R) : (ofProgram p).Tree :=
  Builder.tree_complete (Builder.sound_start p)

theorem readBody?_root (p : Program R) : (ofProgram p).readBody? root = some p :=
  Builder.readBody?_complete (Builder.sound_start p) (root, p) (List.mem_singleton.mpr rfl)

theorem readBody?_perm (p : Program R) :
    ((List.range (ofProgram p).bodyCount).map fun i => (ofProgram p).readBody? ⟨i⟩).Perm
      ((Program.bodies p).map some) := by
  have hperm := Builder.readBody?_complete_perm (Builder.sound_start p)
  have hrange : List.range (ofProgram p).bodyCount =
      0 :: List.range' 1 ((ofProgram p).bodyCount - 1) := by
    have := (tree_ofProgram p).root_lt
    obtain ⟨n, hn⟩ := Nat.exists_eq_succ_of_ne_zero (Nat.ne_of_gt this)
    rw [hn, List.range_eq_range', List.range'_succ]
    rfl
  rw [hrange]
  exact hperm.trans (by simp [Builder.start])

theorem conditions_perm_ofProgram (p : Program R) :
    (ofProgram p).conditions.toList.Perm ((Program.blocks p).flatMap Op.conditions) :=
  (Builder.conditions_complete_perm (Builder.start p)).trans (by simp [Builder.start])

theorem condition_ofProgram {p : Program R} {P : Expr R → Prop} (hfalse : P (.boolean false))
    (h : ∀ op ∈ Program.blocks p, ∀ condition ∈ op.conditions, P condition) (id : CondId) :
    P ((ofProgram p).condition id) := by
  unfold condition
  cases hcondition : (ofProgram p).conditions[id.index]? with
  | none => exact hfalse
  | some condition =>
    have hmem := Array.mem_toList_iff.mpr (Array.mem_of_getElem? hcondition)
    have hblocks := (conditions_perm_ofProgram p).mem_iff.mp hmem
    obtain ⟨op, hop, hcondition⟩ := List.mem_flatMap.mp hblocks
    exact h op hop condition hcondition

theorem bodyCount_ofProgram (p : Program R) :
    (ofProgram p).bodyCount = 1 + Op.bodiesWithin p := by
  rw [← Program.length_bodies]
  simpa using (readBody?_perm p).length_eq

theorem instrCount_ofProgram (p : Program R) : (ofProgram p).instrCount = Program.size p := by
  have hsum := ((readBody?_perm p).map fun ops => (ops.getD []).length).sum_eq
  rw [instrCount_eq_sum, Program.size, Program.blocks, List.length_flatten]
  simp only [List.map_map, Function.comp_def, Option.getD_some] at hsum
  rw [← hsum]
  congr 1
  apply List.map_congr_left
  intro i hi
  obtain ⟨ops, hops⟩ := (tree_ofProgram p).exists_readBody? ⟨i⟩ (List.mem_range.mp hi)
  rw [hops, Option.getD_some, length_of_readBody? hops]

theorem nodup_of_instr? {α : Type} {s : Script R} {f : Instr R → List α}
    (hnodup : (s.bodies.toList.flatMap fun body => body.toList.flatMap f).Nodup) {slot : Slot}
    {instr : Instr R} (h : s.instr? slot = some instr) : (f instr).Nodup := by
  have hbody := (List.nodup_flatMap.mp hnodup).1 _
    (List.mem_of_getElem? (bodies_getElem?_of_instr? h))
  apply (List.nodup_flatMap.mp hbody).1
  rw [Array.mem_toList_iff]
  exact Array.mem_of_getElem? h

theorem mention_unique {α : Type} {s : Script R} {f : Instr R → List α} {a : α}
    (hnodup : (s.bodies.toList.flatMap fun body => body.toList.flatMap f).Nodup)
    (hmem : a ∈ s.bodies.toList.flatMap fun body => body.toList.flatMap f) :
    ∃! m : Mention, ∃ instr, s.instr? m.slot = some instr ∧ (f instr)[m.position]? = some a := by
  obtain ⟨slot, instr, hinstr, ha⟩ := mem_flatMap_slots.mp hmem
  obtain ⟨i, hi⟩ := List.mem_iff_getElem?.mp ha
  refine ⟨⟨slot, i⟩, ⟨instr, hinstr, hi⟩, ?_⟩
  rintro ⟨slot', i'⟩ ⟨instr', hinstr', hi'⟩
  have hslot := slot_eq_of_nodup hnodup hinstr' hinstr (List.mem_of_getElem? hi') ha
  dsimp at hslot hinstr' hi'
  subst hslot
  rw [hinstr] at hinstr'
  cases hinstr'
  obtain ⟨hlt, hget⟩ := List.getElem?_eq_some_iff.mp hi
  obtain ⟨hlt', hget'⟩ := List.getElem?_eq_some_iff.mp hi'
  have : i' = i := by
    apply (nodup_of_instr? hnodup hinstr).getElem_inj_iff.mp
    rw [hget', hget]
  rw [this]

/-- Flattening a program loses and invents nothing. -/
theorem ofProgram_mirrors (p : Program R) : (ofProgram p).Mirrors p where
  read_root := readBody?_root p
  body_lt := by
    intro m id h
    obtain ⟨instr, hinstr, hid⟩ := bodyAt?_eq_some_iff.mp h
    exact (tree_ofProgram p).body_lt hinstr (List.mem_of_getElem? hid)
  body_later := by
    intro m id h
    obtain ⟨instr, hinstr, hid⟩ := bodyAt?_eq_some_iff.mp h
    exact (tree_ofProgram p).later _ _ hinstr id (List.mem_of_getElem? hid)
  body_once := by
    intro id hroot hlt
    have hpos : 0 < id.index := by
      rcases id with ⟨i⟩
      simp [root] at hroot
      exact Nat.pos_of_ne_zero hroot
    simp only [bodyAt?_eq_some_iff]
    apply mention_unique (tree_ofProgram p).nodup_bodies
    exact ((tree_ofProgram p).mem_namedBodies_iff id).mpr ⟨hpos, hlt⟩
  root_unnamed := by
    intro m h
    obtain ⟨instr, hinstr, hid⟩ := bodyAt?_eq_some_iff.mp h
    have := (tree_ofProgram p).later _ _ hinstr root (List.mem_of_getElem? hid)
    exact Nat.not_lt_zero _ this
  condition_lt := by
    intro m id h
    obtain ⟨instr, hinstr, hid⟩ := conditionAt?_eq_some_iff.mp h
    exact (tree_ofProgram p).condition_lt hinstr (List.mem_of_getElem? hid)
  condition_once := by
    intro id hlt
    simp only [conditionAt?_eq_some_iff]
    apply mention_unique (tree_ofProgram p).nodup_conditions
    exact ((tree_ofProgram p).mem_namedConditions_iff id).mpr hlt
  bodies_filled := readBody?_perm p
  conditions_kept := conditions_perm_ofProgram p
  body_fits := by
    intro hfew m id h
    obtain ⟨instr, hinstr, hid⟩ := bodyAt?_eq_some_iff.mp h
    have := (tree_ofProgram p).body_lt hinstr (List.mem_of_getElem? hid)
    rw [bodyCount_ofProgram] at this
    omega
  condition_fits := by
    intro hfew m id h
    obtain ⟨instr, hinstr, hid⟩ := conditionAt?_eq_some_iff.mp h
    have := (tree_ofProgram p).condition_lt hinstr (List.mem_of_getElem? hid)
    rw [← (conditions_perm_ofProgram p).length_eq, Array.length_toList] at hfew
    omega
  bodyCount_eq := bodyCount_ofProgram p
  instrCount_eq := instrCount_ofProgram p

end Script

end ReefRover
