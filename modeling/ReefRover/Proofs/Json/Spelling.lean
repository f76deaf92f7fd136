import Mathlib.Data.List.Forall2
import Mathlib.Data.List.Perm.Basic
import ReefRover.Proofs.Json.Draft

/-!
This module contains the ways to write a tagged object, which has its tag first where it is written
plainly. The members may stand in any order with any others between them, an array may hold the
fields by their places, and a field without content may be left out.
-/

namespace ReefRover

namespace Json

variable {σ : Type}

/--
Which members stand for the fields of an object. `S v given` says that a field which is plainly `v`
may be given as `given`, or be left out if that is nothing.
-/
inductive Keeps (S : σ → Option σ → Prop) : List (String × σ) → List (String × σ) → Prop where
  | nil : Keeps S [] []
  | keep {key : String} {v v' : σ} {fields kept : List (String × σ)} (hv : S v (some v'))
      (h : Keeps S fields kept) : Keeps S ((key, v) :: fields) ((key, v') :: kept)
  | drop {key : String} {v : σ} {fields kept : List (String × σ)} (hv : S v none)
      (h : Keeps S fields kept) : Keeps S ((key, v) :: fields) kept

/-- Which values stand for the fields by their places. Only the last ones may be left out. -/
inductive Places (S : σ → Option σ → Prop) : List (String × σ) → List σ → Prop where
  | nil : Places S [] []
  | place {key : String} {v v' : σ} {fields : List (String × σ)} {values : List σ}
      (hv : S v (some v')) (h : Places S fields values) :
      Places S ((key, v) :: fields) (v' :: values)
  | drop {key : String} {v : σ} {fields : List (String × σ)} (hv : S v none)
      (h : Places S fields []) : Places S ((key, v) :: fields) []

/-- How an object may be written that has its tag first where it is written plainly. -/
inductive Spells (S : Json → Option Json → Prop) : Json → Json → Prop where
  | obj {tag : String × Json} {fields kept others members : List (String × Json)}
      (hkept : Keeps S fields kept) (hmembers : members.Perm (tag :: (kept ++ others)))
      (hothers : ∀ other ∈ others, other.1 ∉ (tag :: fields).map Prod.fst) :
      Spells S (.obj (tag :: fields)) (.obj members)
  | arr {tag : String × Json} {fields : List (String × Json)} {values : List Json}
      (hvalues : Places S fields values) :
      Spells S (.obj (tag :: fields)) (.arr (tag.2 :: values))

inductive Given (R : Json → Json → Prop) : Json → Option Json → Prop where
  | value {v v' : Json} (h : R v v') : Given R v (some v')
  | nothing : Given R .null none

def Leaves (S : Json → Option Json → Prop) : Prop :=
  ∀ v : Json, v.depth = 0 → ∀ given, S v given → given = some v ∨ given = none ∧ v = .null

/-- How a value may be written without a change of meaning, with all the objects inside it. -/
inductive Respells : Json → Json → Prop where
  | same (j : Json) : Respells j j
  | items {items items' : List Json} (h : List.Forall₂ Respells items items') :
      Respells (.arr items) (.arr items')
  | tagged {j j' : Json} (h : Spells (Given Respells) j j') : Respells j j'

/-- As `Respells`, with at most `limit` brackets open within each other. -/
def Within (limit : Nat) (v v' : Json) : Prop :=
  Respells v v' ∧ v'.depth ≤ limit

/-! ### Objects -/

theorem Keeps.self {S : σ → Option σ → Prop} {fields : List (String × σ)}
    (h : ∀ field ∈ fields, S field.2 (some field.2)) : Keeps S fields fields := by
  induction fields with
  | nil => exact .nil
  | cons field fields ih =>
    rw [List.forall_mem_cons] at h
    exact .keep h.1 (ih h.2)

theorem Keeps.key_not_mem {S : σ → Option σ → Prop} {fields kept : List (String × σ)}
    (h : Keeps S fields kept) {name : String} (hname : name ∉ fields.map Prod.fst) :
    name ∉ kept.map Prod.fst := by
  induction h with
  | nil => exact hname
  | keep hv h ih =>
    rw [List.map_cons, List.mem_cons, not_or] at hname ⊢
    exact hname.imp_right ih
  | drop hv h ih =>
    rw [List.map_cons, List.mem_cons, not_or] at hname
    exact ih hname.2

theorem filter_eq_nil_of_key {name : String} {members : List (String × σ)}
    (h : name ∉ members.map Prod.fst) : (members.filter fun member => member.1 == name) = [] := by
  rw [List.filter_eq_nil_iff]
  intro member hmember hname
  exact h (eq_of_beq hname ▸ List.mem_map_of_mem hmember)

theorem Keeps.exists_given {S : σ → Option σ → Prop} {fields kept : List (String × σ)}
    (h : Keeps S fields kept) (hkeys : (fields.map Prod.fst).Nodup) :
    ∀ field ∈ fields, ∃ given, S field.2 given ∧
      (kept.filter fun member => member.1 == field.1) = given.toList.map (field.1, ·) := by
  induction h with
  | nil => nofun
  | @keep key v v' fields kept hv h ih =>
    obtain ⟨hkey, hkeys⟩ := List.nodup_cons.mp hkeys
    rw [List.forall_mem_cons]
    constructor
    . refine ⟨some v', hv, ?_⟩
      rw [List.filter_cons_of_pos (by simp), filter_eq_nil_of_key (h.key_not_mem hkey)]
      rfl
    . intro field hfield
      obtain ⟨given, hgiven, hfilter⟩ := ih hkeys field hfield
      refine ⟨given, hgiven, ?_⟩
      rw [List.filter_cons_of_neg, hfilter]
      rintro hname
      exact hkey (eq_of_beq hname ▸ List.mem_map_of_mem hfield)
  | @drop key v fields kept hv h ih =>
    obtain ⟨hkey, hkeys⟩ := List.nodup_cons.mp hkeys
    rw [List.forall_mem_cons]
    exact ⟨⟨none, hv, filter_eq_nil_of_key (h.key_not_mem hkey)⟩, ih hkeys⟩

theorem Keeps.imp {S T : σ → Option σ → Prop} {fields kept : List (String × σ)}
    (h : Keeps S fields kept)
    (hpart : ∀ v, ∀ member ∈ kept, S v (some member.2) → T v (some member.2))
    (hnone : ∀ v, S v none → T v none) : Keeps T fields kept := by
  induction h with
  | nil => exact .nil
  | keep hv h ih =>
    simp only [List.forall_mem_cons, forall_and] at hpart
    exact .keep (hpart.1 _ hv) (ih hpart.2)
  | drop hv h ih => exact .drop (hnone _ hv) (ih hpart)

theorem Places.imp {S T : σ → Option σ → Prop} {fields : List (String × σ)} {values : List σ}
    (h : Places S fields values) (hpart : ∀ v, ∀ v' ∈ values, S v (some v') → T v (some v'))
    (hnone : ∀ v, S v none → T v none) : Places T fields values := by
  induction h with
  | nil => exact .nil
  | place hv h ih =>
    simp only [List.forall_mem_cons, forall_and] at hpart
    exact .place (hpart.1 _ hv) (ih hpart.2)
  | drop hv h ih => exact .drop (hnone _ hv) (ih hpart)

variable {S T : Json → Option Json → Prop} {R : Json → Json → Prop}

theorem Spells.exists_split {tag : String × Json} {fields members : List (String × Json)}
    (h : Spells S (.obj (tag :: fields)) (.obj members)) (htag : tag.1 ∉ fields.map Prod.fst) :
    ∃ before after kept others, members = before ++ tag :: after ∧
      tag.1 ∉ (before ++ after).map Prod.fst ∧ Keeps S fields kept ∧
      (before ++ after).Perm (kept ++ others) ∧
      ∀ other ∈ others, other.1 ∉ fields.map Prod.fst := by
  cases h with
  | @obj _ _ kept others _ hkept hmembers hothers =>
    obtain ⟨before, after, rfl⟩ : ∃ before after, members = before ++ tag :: after :=
      List.append_of_mem (hmembers.mem_iff.mpr List.mem_cons_self)
    have hrest : (before ++ after).Perm (kept ++ others) :=
      (List.perm_middle.symm.trans hmembers).cons_inv
    simp only [List.map_cons, List.mem_cons, not_or] at hothers
    refine ⟨before, after, kept, others, rfl, ?_, hkept, hrest, fun other h => (hothers other h).2⟩
    rw [(hrest.map Prod.fst).mem_iff, List.map_append, List.mem_append, not_or]
    constructor
    . exact hkept.key_not_mem htag
    . intro hmem
      obtain ⟨other, hother, hname⟩ := List.mem_map.mp hmem
      exact (hothers other hother).1 hname

theorem Spells.imp {j j' : Json} (h : Spells S j j')
    (hpart : ∀ v, ∀ part ∈ j'.parts, S v (some part) → T v (some part))
    (hnone : ∀ v, S v none → T v none) : Spells T j j' := by
  cases h with
  | obj hkept hmembers hothers =>
    refine .obj (hkept.imp ?_ hnone) hmembers hothers
    intro v member hmember
    apply hpart v member.2 (List.mem_map_of_mem _)
    rw [hmembers.mem_iff]
    exact List.mem_cons_of_mem _ (List.mem_append_left _ hmember)
  | arr hvalues =>
    refine .arr (hvalues.imp ?_ hnone)
    intro v v' hv'
    exact hpart v v' (List.mem_cons_of_mem _ hv')

theorem Given.eq_some_or {v : Json} {given : Option Json} (h : Given R v given) :
    (∃ v', given = some v' ∧ R v v') ∨ given = none ∧ v = .null := by
  cases h with
  | value h => exact .inl ⟨_, rfl, h⟩
  | nothing => exact .inr ⟨rfl, rfl⟩

namespace Respells

theorem spells {tag : String × Json} {fields : List (String × Json)} {j : Json}
    (h : Respells (.obj (tag :: fields)) j) :
    Spells (Given Respells) (.obj (tag :: fields)) j := by
  cases h with
  | same =>
    have hkept : Keeps (Given Respells) fields fields :=
      Keeps.self fun field _ => .value (.same field.2)
    have hmembers : (tag :: fields).Perm (tag :: (fields ++ [])) := by rw [List.append_nil]
    exact .obj hkept hmembers nofun
  | tagged h => exact h

theorem exists_items {items : List Json} {j : Json} (h : Respells (.arr items) j) :
    ∃ items', j = .arr items' ∧ List.Forall₂ Respells items items' := by
  cases h with
  | same => exact ⟨items, rfl, List.forall₂_same.mpr fun item _ => .same item⟩
  | items h => exact ⟨_, rfl, h⟩
  | tagged h => cases h

theorem eq_of_depth {v v' : Json} (h : Respells v v') (hdepth : v.depth = 0) : v' = v := by
  cases h with
  | same => rfl
  | items h => cases hdepth
  | tagged h => cases h <;> cases hdepth

end Respells

theorem leaves_within (limit : Nat) : Leaves (Given (Within limit)) := by
  intro v hdepth given h
  obtain ⟨v', rfl, h, -⟩ | h := h.eq_some_or
  . rw [h.eq_of_depth hdepth]
    exact .inl rfl
  . exact .inr h

theorem Respells.exists_spells {tag : String × Json} {fields : List (String × Json)} {j j' : Json}
    (hobj : j = .obj (tag :: fields)) (h : Respells j j') {limit : Nat}
    (hdepth : j'.depth ≤ limit) :
    ∃ room, limit = room + 1 ∧ Spells (Given (Within room)) j j' := by
  rw [hobj] at h ⊢
  have hspells := h.spells
  obtain ⟨room, rfl⟩ : ∃ room, limit = room + 1 := by
    apply Nat.exists_eq_add_one_of_ne_zero
    rintro rfl
    cases hspells <;> cases hdepth
  rw [depth_le_iff_parts] at hdepth
  refine ⟨room, rfl, hspells.imp ?_ ?_⟩
  . intro v part hpart hv
    cases hv with
    | value hv => exact .value ⟨hv, hdepth part hpart⟩
  . intro v hv
    cases hv
    exact .nothing

end Json

end ReefRover
