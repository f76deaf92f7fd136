import Mathlib.Data.List.Nodup
import Mathlib.Data.List.Perm.Basic
import ReefRover.Proofs.Script.Reading

/-!
This module contains scripts whose bodies form a tree: each body but the top-level one is named in
exactly one place, which lies in an earlier body, and each condition is named in exactly one place.
All bodies of such a script can be read.
-/

namespace ReefRover

theorem BodyId.index_injective : Function.Injective BodyId.index := by
  intro id id' h
  cases id
  cases id'
  exact congrArg BodyId.mk h

theorem CondId.index_injective : Function.Injective CondId.index := by
  intro id id' h
  cases id
  cases id'
  exact congrArg CondId.mk h

structure Slot where
  body : BodyId
  position : Nat
deriving DecidableEq, Repr

namespace Script

variable {R : Type}

def instr? (s : Script R) (slot : Slot) : Option (Instr R) :=
  (s.body slot.body)[slot.position]?

def namedBodies (s : Script R) : List BodyId :=
  s.bodies.toList.flatMap fun body => body.toList.flatMap Instr.bodies

def namedConditions (s : Script R) : List CondId :=
  s.bodies.toList.flatMap fun body => body.toList.flatMap Instr.conditions

structure Tree (s : Script R) : Prop where
  root_lt : 0 < s.bodyCount
  bodies_perm : (s.namedBodies.map BodyId.index).Perm (List.range' 1 (s.bodyCount - 1))
  conditions_perm : (s.namedConditions.map CondId.index).Perm (List.range s.conditions.size)
  later : ∀ slot instr, s.instr? slot = some instr → ∀ inner ∈ instr.bodies,
    slot.body.index < inner.index

end Script

theorem index_eq_of_nodup_flatMap {α β : Type} {xs : List α} {f : α → List β}
    (hnodup : (xs.flatMap f).Nodup) {i j : Nat} {x y : α} {a : β} (hx : xs[i]? = some x)
    (hy : xs[j]? = some y) (hax : a ∈ f x) (hay : a ∈ f y) : i = j := by
  obtain ⟨hi, rfl⟩ := List.getElem?_eq_some_iff.mp hx
  obtain ⟨hj, rfl⟩ := List.getElem?_eq_some_iff.mp hy
  have hpairwise := List.pairwise_iff_getElem.mp (List.nodup_flatMap.mp hnodup).2
  rcases Nat.lt_trichotomy i j with hlt | heq | hlt
  . exact absurd hay (hpairwise i j hi hj hlt hax)
  . exact heq
  . exact absurd hax (hpairwise j i hj hi hlt hay)

namespace Script

variable {R : Type} {s : Script R}

theorem bodies_getElem?_of_instr? {slot : Slot} {instr : Instr R} (h : s.instr? slot = some instr) :
    s.bodies.toList[slot.body.index]? = some (s.body slot.body) := by
  cases hbody : s.bodies[slot.body.index]? with
  | none => simp [instr?, body, hbody] at h
  | some body => simp [Script.body, hbody]

theorem lt_bodyCount_of_instr? {slot : Slot} {instr : Instr R} (h : s.instr? slot = some instr) :
    slot.body.index < s.bodyCount := by
  have := (List.getElem?_eq_some_iff.mp (bodies_getElem?_of_instr? h)).1
  simpa [bodyCount] using this

theorem slot_eq_of_nodup {α : Type} {f : Instr R → List α}
    (hnodup : (s.bodies.toList.flatMap fun body => body.toList.flatMap f).Nodup)
    {slot slot' : Slot} {instr instr' : Instr R} {a : α} (h : s.instr? slot = some instr)
    (h' : s.instr? slot' = some instr') (ha : a ∈ f instr) (ha' : a ∈ f instr') :
    slot = slot' := by
  -- first the two bodies are the same, then the positions in it
  have hbody := bodies_getElem?_of_instr? h
  have hbody' := bodies_getElem?_of_instr? h'
  have hinstr : (s.body slot.body).toList[slot.position]? = some instr := by simpa [instr?] using h
  have hinstr' : (s.body slot'.body).toList[slot'.position]? = some instr' := by
    simpa [instr?] using h'
  have hindex : slot.body.index = slot'.body.index := by
    apply index_eq_of_nodup_flatMap hnodup hbody hbody' (a := a)
    . exact List.mem_flatMap.mpr ⟨instr, List.mem_of_getElem? hinstr, ha⟩
    . exact List.mem_flatMap.mpr ⟨instr', List.mem_of_getElem? hinstr', ha'⟩
  rcases slot with ⟨⟨i⟩, j⟩
  rcases slot' with ⟨⟨i'⟩, j'⟩
  obtain rfl : i = i' := hindex
  have hnodup' := (List.nodup_flatMap.mp hnodup).1 _ (List.mem_of_getElem? hbody)
  obtain rfl : j = j' := index_eq_of_nodup_flatMap hnodup' hinstr hinstr' ha ha'
  rfl

namespace Tree

theorem nodup_bodies (h : s.Tree) : s.namedBodies.Nodup :=
  List.Nodup.of_map _ (h.bodies_perm.nodup_iff.mpr List.nodup_range')

theorem nodup_conditions (h : s.Tree) : s.namedConditions.Nodup :=
  List.Nodup.of_map _ (h.conditions_perm.nodup_iff.mpr List.nodup_range)

theorem mem_namedBodies_iff (h : s.Tree) (id : BodyId) :
    id ∈ s.namedBodies ↔ 0 < id.index ∧ id.index < s.bodyCount := by
  have := h.root_lt
  rw [← List.mem_map_of_injective BodyId.index_injective, h.bodies_perm.mem_iff,
    List.mem_range'_1]
  omega

theorem mem_namedConditions_iff (h : s.Tree) (id : CondId) :
    id ∈ s.namedConditions ↔ id.index < s.conditions.size := by
  rw [← List.mem_map_of_injective CondId.index_injective, h.conditions_perm.mem_iff,
    List.mem_range]

end Tree

theorem mem_flatMap_slots {α : Type} {f : Instr R → List α} {a : α} :
    (a ∈ s.bodies.toList.flatMap fun body => body.toList.flatMap f) ↔
      ∃ slot instr, s.instr? slot = some instr ∧ a ∈ f instr := by
  simp only [List.mem_flatMap]
  constructor
  . rintro ⟨body, hbody, instr, hinstr, ha⟩
    obtain ⟨i, hi⟩ := List.mem_iff_getElem?.mp hbody
    obtain ⟨j, hj⟩ := List.mem_iff_getElem?.mp hinstr
    refine ⟨⟨⟨i⟩, j⟩, instr, ?_, ha⟩
    rw [Array.getElem?_toList] at hi hj
    simpa [instr?, Script.body, hi] using hj
  . rintro ⟨slot, instr, h, ha⟩
    refine ⟨_, List.mem_of_getElem? (bodies_getElem?_of_instr? h), instr, ?_, ha⟩
    rw [Array.mem_toList_iff]
    exact Array.mem_of_getElem? h

namespace Tree

theorem body_lt (h : s.Tree) {slot : Slot} {instr : Instr R} (hinstr : s.instr? slot = some instr)
    {inner : BodyId} (hinner : inner ∈ instr.bodies) : inner.index < s.bodyCount :=
  ((h.mem_namedBodies_iff inner).mp (mem_flatMap_slots.mpr ⟨slot, instr, hinstr, hinner⟩)).2

theorem condition_lt (h : s.Tree) {slot : Slot} {instr : Instr R}
    (hinstr : s.instr? slot = some instr) {c : CondId} (hc : c ∈ instr.conditions) :
    c.index < s.conditions.size :=
  (h.mem_namedConditions_iff c).mp (mem_flatMap_slots.mpr ⟨slot, instr, hinstr, hc⟩)

theorem slot_eq_of_mem_bodies (h : s.Tree) {slot slot' : Slot} {instr instr' : Instr R}
    {inner : BodyId} (hinstr : s.instr? slot = some instr) (hinstr' : s.instr? slot' = some instr')
    (hinner : inner ∈ instr.bodies) (hinner' : inner ∈ instr'.bodies) : slot = slot' :=
  slot_eq_of_nodup h.nodup_bodies hinstr hinstr' hinner hinner'

theorem exists_condition (h : s.Tree) {slot : Slot} {instr : Instr R}
    (hinstr : s.instr? slot = some instr) {c : CondId} (hc : c ∈ instr.conditions) :
    s.condition? c = some (s.condition c) := by
  have hlt := h.condition_lt hinstr hc
  simp [condition?, condition, hlt]

end Tree

end Script

theorem exists_forall₂ {α β : Type} {r : α → β → Prop} {xs : List α}
    (h : ∀ x ∈ xs, ∃ y, r x y) : ∃ ys, List.Forall₂ r xs ys := by
  induction xs with
  | nil => exact ⟨[], .nil⟩
  | cons x xs ih =>
    obtain ⟨y, hy⟩ := h x List.mem_cons_self
    obtain ⟨ys, hys⟩ := ih fun x hx => h x (List.mem_cons_of_mem _ hx)
    exact ⟨y :: ys, .cons hy hys⟩

namespace Script

variable {R : Type} {s : Script R}

theorem Tree.exists_readBody? (h : s.Tree) (id : BodyId) (hid : id.index < s.bodyCount) :
    ∃ ops, s.readBody? id = some ops := by
  suffices hinstrs : ∀ instr ∈ (s.body id).toList,
      ∃ op, instr.block? s.condition? (s.readInner? id) = some op by
    obtain ⟨ops, hops⟩ := exists_forall₂ hinstrs
    exact ⟨ops, readBody?_eq_some_iff.mpr ⟨hid, hops⟩⟩
  intro instr hmem
  rw [Array.mem_toList_iff] at hmem
  obtain ⟨i, hi⟩ := Array.mem_iff_getElem?.mp hmem
  have hinstr : s.instr? ⟨id, i⟩ = some instr := hi
  apply Instr.exists_block?
  . intro c hc
    exact ⟨_, h.exists_condition hinstr hc⟩
  -- an inner body comes later in the table, so the induction is on what follows `id` there
  . intro inner hinner
    have hlater : id.index < inner.index := h.later _ _ hinstr inner hinner
    have hlt := h.body_lt hinstr hinner
    rw [readInner?, if_pos hlater]
    exact exists_readBody? h inner hlt
termination_by s.bodyCount - id.index

end Script

end ReefRover
