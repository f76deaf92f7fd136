import ReefRover.Proofs.Program.Bodies
import ReefRover.Proofs.Script.Tree

/-!
This module contains the blocks that the names in a script stand for. In a script whose bodies form
a tree, the blocks of a body are those of its instructions, one by one.
-/

namespace ReefRover

variable {R : Type}

namespace Script

/-- The blocks of a body; a name that cannot be followed stands for none. -/
def ops (s : Script R) (id : BodyId) : List (Op R) :=
  (s.readBody? id).getD []

end Script

namespace Instr

def op (s : Script R) : Instr R → Op R
  | .action a => .action a
  | .waitUntil c => .waitUntil (s.condition c)
  | .repeatTimes times body => .repeatTimes times (s.ops body)
  | .forever body => .forever (s.ops body)
  | .repeatUntil c body => .repeatUntil (s.condition c) (s.ops body)
  | .whileDo c body => .whileDo (s.condition c) (s.ops body)
  | .ifThen c yes => .ifThen (s.condition c) (s.ops yes)
  | .ifThenElse c yes otherwise => .ifThenElse (s.condition c) (s.ops yes) (s.ops otherwise)
  | .ifElseIfElse c yes d elseIf otherwise =>
    .ifElseIfElse (s.condition c) (s.ops yes) (s.condition d) (s.ops elseIf) (s.ops otherwise)
  | .breakLoop => .breakLoop
  | .stopProject => .stopProject

theorem bodies_op (s : Script R) (instr : Instr R) :
    (instr.op s).bodies = instr.bodies.map s.ops := by
  cases instr <;> rfl

theorem op_eq_of_block? {s : Script R} {outer : BodyId} {instr : Instr R} {op : Op R}
    (h : instr.block? s.condition? (s.readInner? outer) = some op) : instr.op s = op := by
  have hcond : ∀ c e, s.condition? c = some e → s.condition c = e := by
    intro c e hc
    unfold Script.condition? at hc
    simp [Script.condition, hc]
  have hbody : ∀ id ops, s.readInner? outer id = some ops → s.ops id = ops := by
    intro id ops hread
    unfold Script.readInner? at hread
    split at hread
    . simp [Script.ops, hread]
    . cases hread
  cases instr
  all_goals
    simp only [block?, bind, Option.bind_eq_some_iff, pure, Option.some.injEq] at h
    grind [op]

end Instr

namespace Script

variable {s : Script R}

theorem drop_ops_of_instr? (h : s.Tree) {slot : Slot} {instr : Instr R}
    (hinstr : s.instr? slot = some instr) :
    (s.ops slot.body).drop slot.position =
      instr.op s :: (s.ops slot.body).drop (slot.position + 1) := by
  obtain ⟨blocks, hread⟩ := h.exists_readBody? slot.body (lt_bodyCount_of_instr? hinstr)
  obtain ⟨-, hblocks⟩ := readBody?_eq_some_iff.mp hread
  obtain ⟨hlt, hget⟩ := Array.getElem?_eq_some_iff.mp hinstr
  have hlt' : slot.position < blocks.length := by
    rw [length_of_readBody? hread]
    exact hlt
  have hblock : instr.block? s.condition? (s.readInner? slot.body) =
      some blocks[slot.position] := by
    rw [← hget]
    exact (List.forall₂_iff_get.mp hblocks).2 slot.position (by simpa using hlt) hlt'
  rw [ops, hread, Option.getD_some, List.drop_eq_getElem_cons hlt']
  rw [Instr.op_eq_of_block? hblock]

theorem drop_ops_of_instr?_eq_none {slot : Slot} (hinstr : s.instr? slot = none) :
    (s.ops slot.body).drop slot.position = [] := by
  cases hread : s.readBody? slot.body with
  | none => simp [ops, hread]
  | some blocks =>
    apply List.drop_eq_nil_of_le
    rw [ops, hread, Option.getD_some, length_of_readBody? hread]
    exact Array.getElem?_eq_none_iff.mp hinstr

end Script

end ReefRover
