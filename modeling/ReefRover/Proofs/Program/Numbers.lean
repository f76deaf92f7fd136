import ReefRover.Proofs.Program.Fault

/-!
This module contains the numbers of programs: those of their blocks and those that stand in their
conditions.
-/

namespace ReefRover

variable {R : Type}

namespace Expr

def operands : Expr R → List (Expr R)
  | not operand => [operand]
  | compare _ lhs rhs | logic _ lhs rhs => [lhs, rhs]
  | boolean _ | number _ | sensor _ => []

def literals : Expr R → List R
  | number value => [value]
  | not operand => operand.literals
  | compare _ lhs rhs | logic _ lhs rhs => lhs.literals ++ rhs.literals
  | boolean _ | sensor _ => []

/-- The operands of an expression satisfy `P`, and its number does `N` if it is one. -/
structure Parts (P : Expr R → Prop) (N : R → Prop) (e : Expr R) : Prop where
  operands : ∀ operand ∈ e.operands, P operand
  number : ∀ x, e = .number x → N x

theorem operandInduction {P : Expr R → Prop} (step : ∀ e, (∀ operand ∈ e.operands, P operand) → P e)
    (e : Expr R) : P e := by
  apply step
  induction e with
  | boolean value | number value | sensor s => simp [operands]
  | not operand ih => simpa [operands] using step operand ih
  | compare op lhs rhs ihl ihr | logic op lhs rhs ihl ihr =>
    simpa [operands] using ⟨step lhs ihl, step rhs ihr⟩

theorem forall_literals_iff {N : R → Prop} {e : Expr R} :
    (∀ x ∈ e.literals, N x) ↔ e.Parts (fun operand => ∀ x ∈ operand.literals, N x) N := by
  constructor
  . intro h
    constructor
    . cases e <;> simp_all [operands, literals, or_imp, forall_and]
    . rintro x rfl
      exact h x (List.mem_singleton_self x)
  . rintro ⟨hoperands, hnumber⟩
    cases e <;> simp_all [operands, literals, or_imp, forall_and]

end Expr

structure Op.Parts (C : Expr R → Prop) (B : List (Op R) → Prop) (N : R → Prop) (op : Op R) :
    Prop where
  conditions : ∀ condition ∈ op.conditions, C condition
  bodies : ∀ body ∈ op.bodies, B body
  numbers : ∀ number ∈ op.numbers, N number.2

namespace Program

def numbers (p : Program R) : List R :=
  (blocks p).flatMap fun op =>
    op.numbers.map Prod.snd ++ op.conditions.flatMap Expr.literals

theorem forall_numbers_iff {N : R → Prop} {p : Program R} :
    (∀ x ∈ numbers p, N x) ↔
      ∀ op ∈ p, op.Parts (fun condition => ∀ x ∈ condition.literals, N x)
        (fun body => ∀ x ∈ numbers body, N x) N := by
  -- what a block or a block in one of its bodies holds, the program holds
  have hblock : ∀ x, ∀ op ∈ p, ∀ inner, inner = op ∨ (∃ body ∈ op.bodies, inner ∈ blocks body) →
      x ∈ inner.numbers.map Prod.snd ++ inner.conditions.flatMap Expr.literals → x ∈ numbers p := by
    intro x op hop inner hinner hx
    refine List.mem_flatMap.mpr ⟨inner, ?_, hx⟩
    rw [blocks_eq, List.mem_append, List.mem_flatMap]
    rcases hinner with rfl | ⟨body, hbody, hinner⟩
    . exact .inl hop
    . exact .inr ⟨op, hop, List.mem_flatMap.mpr ⟨body, hbody, hinner⟩⟩
  constructor
  . intro h op hop
    constructor
    . intro condition hcondition x hx
      apply h x (hblock x op hop op (.inl rfl) _)
      exact List.mem_append_right _ (List.mem_flatMap.mpr ⟨condition, hcondition, hx⟩)
    . intro body hbody x hx
      obtain ⟨inner, hinner, hx⟩ := List.mem_flatMap.mp hx
      exact h x (hblock x op hop inner (.inr ⟨body, hbody, hinner⟩) hx)
    . intro number hnumber
      apply h number.2 (hblock number.2 op hop op (.inl rfl) _)
      exact List.mem_append_left _ (List.mem_map_of_mem hnumber)
  . intro h x hx
    obtain ⟨inner, hinner, hx⟩ := List.mem_flatMap.mp hx
    rw [blocks_eq, List.mem_append, List.mem_flatMap] at hinner
    rcases hinner with hop | ⟨op, hop, hinner⟩
    . rcases List.mem_append.mp hx with hx | hx
      . obtain ⟨number, hnumber, rfl⟩ := List.mem_map.mp hx
        exact (h inner hop).numbers number hnumber
      . obtain ⟨condition, hcondition, hx⟩ := List.mem_flatMap.mp hx
        exact (h inner hop).conditions condition hcondition x hx
    . obtain ⟨body, hbody, hinner⟩ := List.mem_flatMap.mp hinner
      exact (h op hop).bodies body hbody x (List.mem_flatMap.mpr ⟨inner, hinner, hx⟩)

end Program

end ReefRover
