import ReefRover.Proofs.Codec.Number
import ReefRover.Proofs.Json.Tagged
import ReefRover.Proofs.Program.Numbers

/-!
This module contains the written form of expressions: what it is made of, that it is decoded to the
expression that was written, and that no other spelling of an expression nests less.
-/

namespace ReefRover

open Json (Fields Decoder Tagged)
open Json.Fields (Decodes Yields)

namespace Expr

theorem toJson_eq_obj (e : Expr Float32) : ∃ tag fields, e.toJson = .obj (tag :: fields) := by
  cases e <;> exact ⟨_, _, rfl⟩

theorem toJson_ne_null (e : Expr Float32) : e.toJson ≠ .null := by
  obtain ⟨tag, fields, hobj⟩ := e.toJson_eq_obj
  rw [hobj]
  nofun

theorem of_mem_parts {e : Expr Float32} {part : Json} (h : part ∈ e.toJson.parts) :
    (part.depth = 0 ∧ part.numerals = []) ∨ (∃ x, e = .number x ∧ part = .single x) ∨
      ∃ operand ∈ e.operands, part = operand.toJson := by
  cases e with
  | boolean value | sensor s =>
    simp [toJson, Json.parts] at h
    rcases h with rfl | rfl
    . exact .inl ⟨rfl, rfl⟩
    . exact .inl ⟨rfl, rfl⟩
  | number x =>
    simp [toJson, Json.parts] at h
    rcases h with rfl | rfl
    . exact .inl ⟨rfl, rfl⟩
    . exact .inr (.inl ⟨x, rfl, rfl⟩)
  | not operand =>
    simp [toJson, Json.parts] at h
    rcases h with rfl | rfl
    . exact .inl ⟨rfl, rfl⟩
    . exact .inr (.inr ⟨operand, by simp [operands], rfl⟩)
  | compare op lhs rhs | logic op lhs rhs =>
    simp [toJson, Json.parts] at h
    rcases h with rfl | rfl | rfl | rfl
    . exact .inl ⟨rfl, rfl⟩
    . exact .inl ⟨rfl, rfl⟩
    . exact .inr (.inr ⟨lhs, by simp [operands], rfl⟩)
    . exact .inr (.inr ⟨rhs, by simp [operands], rfl⟩)

theorem depth_toJson_le {e : Expr Float32} {limit : Nat}
    (h : ∀ operand ∈ e.operands, operand.toJson.depth ≤ limit) : e.toJson.depth ≤ limit + 1 := by
  rw [Json.depth_le_iff_parts]
  intro part hpart
  rcases of_mem_parts hpart with ⟨hdepth, -⟩ | ⟨x, -, rfl⟩ | ⟨operand, hoperand, rfl⟩
  . rw [hdepth]
    exact Nat.zero_le limit
  . rw [Json.depth_single]
    exact Nat.zero_le limit
  . exact h operand hoperand

theorem numerals_toJson {e : Expr Float32} {n : Numeral} (h : n ∈ e.toJson.numerals) :
    ∃ x ∈ e.literals, Numeral.ofSingle? x = some n := by
  induction e using operandInduction with
  | step e ih =>
    have hliterals := (forall_literals_iff (N := (· ∈ e.literals)) (e := e)).mp fun _ => id
    obtain hnum | ⟨part, hpart, hn⟩ := Json.mem_numerals_iff.mp h
    . obtain ⟨tag, fields, hobj⟩ := e.toJson_eq_obj
      rw [hobj] at hnum
      cases hnum
    . rcases of_mem_parts hpart with ⟨-, hnone⟩ | ⟨x, rfl, rfl⟩ | ⟨operand, hoperand, rfl⟩
      . rw [hnone] at hn
        cases hn
      . exact ⟨x, hliterals.number x rfl, Json.numerals_single hn⟩
      . obtain ⟨x, hx, hx'⟩ := ih operand hoperand hn
        exact ⟨x, hliterals.operands operand hoperand x hx, hx'⟩

/-! ### Decoding -/

variable {operand : Decoder Json (Expr Float32)}

theorem accepts {S : Json → Option Json → Prop} (hS : Json.Leaves S) {e : Expr Float32}
    (h : e.Parts (fun o => Decodes S operand o.toJson o) Json.Returns) :
    (tagged operand).Accepts S e.toJson e := by
  obtain ⟨hoperands, hnumber⟩ := h
  cases e with
  | boolean value =>
    have hvalue : Decodes S (Json.scalar Json.Shape.boolean) (.bool value) value :=
      .leaf hS rfl rfl (by simp)
    exact .intro rfl (by simp [tagged]) (.map (.required hvalue))
  | number x =>
    have hx : Decodes S Json.singleField (.single x) x :=
      .leaf hS (Json.depth_single x) (hnumber x rfl) (hnumber x rfl).single_ne_null
    exact .intro rfl (by simp [tagged]) (.map (.required hx))
  | not e =>
    have he := hoperands e (by simp [operands])
    exact .intro rfl (by simp [tagged]) (.map (.required he))
  | compare op lhs rhs =>
    have hop : Decodes S CompareOp.choice.ofField (.str op.name) op :=
      .text hS (by cases op <;> rfl)
    have hlhs := hoperands lhs (by simp [operands])
    have hrhs := hoperands rhs (by simp [operands])
    exact .intro rfl (by simp [tagged])
      (.seq (.seq (.map (.required hop)) (.required hlhs)) (.required hrhs))
  | logic op lhs rhs =>
    have hop : Decodes S LogicOp.choice.ofField (.str op.name) op :=
      .text hS (by cases op <;> rfl)
    have hlhs := hoperands lhs (by simp [operands])
    have hrhs := hoperands rhs (by simp [operands])
    exact .intro rfl (by simp [tagged])
      (.seq (.seq (.map (.required hop)) (.required hlhs)) (.required hrhs))
  | sensor s =>
    have hs : Decodes S Sensor.choice.ofField (.str s.name) s :=
      .text hS (by cases s <;> rfl)
    exact .intro rfl (by simp [tagged]) (.map (.required hs))

theorem ofJson_respelled {e : Expr Float32} (h : ∀ x ∈ e.literals, Json.Returns x) {j : Json}
    (hj : Json.Respells e.toJson j) {fuel : Nat} (hfuel : j.depth ≤ fuel) :
    ofJson fuel j = .ok e := by
  induction e using operandInduction generalizing j fuel with
  | step e ih =>
    obtain ⟨tag, fields, hobj⟩ := e.toJson_eq_obj
    obtain ⟨hoperands, hnumber⟩ := forall_literals_iff.mp h
    obtain ⟨room, rfl, hspells⟩ := hj.exists_spells hobj hfuel
    refine (accepts (Json.leaves_within room) ⟨?_, hnumber⟩).ofJson_eq hspells
    intro operand hoperand
    exact .within operand.toJson_ne_null fun j hj hdepth =>
      ih operand hoperand (hoperands operand hoperand) hj hdepth

theorem parts_of_ofJson {Fit : Json → Prop} {P : Expr Float32 → Prop} {N : Float32 → Prop}
    (hoperand : ∀ j e, Fit j → operand j = .ok e → P e)
    (hnumber : ∀ j x, Json.singleField j = .ok x → N x) {j : Json} {e : Expr Float32}
    (hj : ∀ part ∈ j.parts, Fit part) (h : (tagged operand).ofJson j = .ok e) : e.Parts P N := by
  have hoperand' (name : String) : (Fields.required name operand).Yields Fit P :=
    .required hoperand
  have hnumber' : (Fields.required "value" Json.singleField).Yields Fit N :=
    .required fun j x _ => hnumber j x
  refine Tagged.ofJson_yields (P := Parts P N) ?_ hj h
  simp only [tagged, List.forall_mem_cons, List.not_mem_nil, false_imp_iff, implies_true, and_true]
  refine ⟨?boolean, ?number, ?not, ?compare, ?logic, ?sensor⟩
  case boolean => exact .map .required_any fun value _ => ⟨by simp [operands], by simp⟩
  case number =>
    refine .map hnumber' fun x hx => ⟨by simp [operands], ?_⟩
    rintro _ ⟨⟩
    exact hx
  case not => exact .map (hoperand' _) fun e he => ⟨by simpa [operands] using he, by simp⟩
  case compare =>
    exact .seq (.seq (.map .required_any fun op _ lhs hlhs rhs hrhs =>
      ⟨by simp [operands, hlhs, hrhs], by simp⟩) (hoperand' _)) (hoperand' _)
  case logic =>
    exact .seq (.seq (.map .required_any fun op _ lhs hlhs rhs hrhs =>
      ⟨by simp [operands, hlhs, hrhs], by simp⟩) (hoperand' _)) (hoperand' _)
  case sensor => exact .map .required_any fun s _ => ⟨by simp [operands], by simp⟩

/-- No spelling of an expression nests less than the one it is written in. -/
theorem ofJson_sound {N : Float32 → Prop} (hnumber : ∀ j x, Json.singleField j = .ok x → N x)
    {fuel : Nat} {j : Json} {e : Expr Float32} (h : ofJson fuel j = .ok e) :
    e.toJson.depth ≤ j.depth ∧ ∀ x ∈ e.literals, N x := by
  induction fuel generalizing j e with
  | zero => cases h
  | succ fuel ih =>
    change (tagged (ofJson fuel)).ofJson j = .ok e at h
    obtain ⟨limit, hlimit⟩ := Tagged.depth_of_ofJson h
    have hparts : ∀ part ∈ j.parts, part.depth ≤ limit :=
      Json.depth_le_iff_parts.mp (Nat.le_of_eq hlimit)
    have hoperand : ∀ (j : Json) (e : Expr Float32), j.depth ≤ limit → ofJson fuel j = .ok e →
        e.toJson.depth ≤ limit ∧ ∀ x ∈ e.literals, N x := by
      intro j e hj he
      exact (ih he).imp_left fun hdepth => Nat.le_trans hdepth hj
    obtain ⟨hoperands, hliteral⟩ := parts_of_ofJson hoperand hnumber hparts h
    rw [hlimit]
    constructor
    . exact depth_toJson_le fun operand hmem => (hoperands operand hmem).1
    . exact forall_literals_iff.mpr ⟨fun operand hmem => (hoperands operand hmem).2, hliteral⟩

end Expr

end ReefRover
