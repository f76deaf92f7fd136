import ReefRover.Proofs.Machine.Path
import ReefRover.Proofs.Script.Content

/-!
This module contains what is left to do in the frames of a machine. A frame has left the blocks of
its body from its cursor on. Since frames are a path in the script, what they have left is apart
from each other, and all of it together is no more than the program.
-/

namespace ReefRover

variable {R : Type}

theorem Program.size_append (p q : Program R) : Program.size (p ++ q) = p.size + q.size := by
  simp [Program.size_eq]

theorem Program.size_drop_le (p : Program R) (n : Nat) : Program.size (p.drop n) ≤ p.size := by
  have h := Program.size_append (p.take n) (p.drop n)
  rw [List.take_append_drop] at h
  omega

namespace Frame

variable {s : Script R}

def rest (s : Script R) (frame : Frame) : List (Op R) :=
  (s.ops frame.body).drop frame.next

theorem rest_of_instr? (htree : s.Tree) {frame : Frame} {instr : Instr R}
    (hinstr : s.instr? frame.slot = some instr) :
    frame.rest s = instr.op s :: frame.movedOn.rest s :=
  Script.drop_ops_of_instr? htree hinstr

end Frame

namespace Script

def load (s : Script R) (frames : List Frame) : Nat :=
  (frames.map fun frame => Program.size (frame.rest s)).sum

variable {s : Script R}

theorem load_nil : s.load [] = 0 :=
  rfl

theorem load_cons (frame : Frame) (below : List Frame) :
    s.load (frame :: below) = Program.size (frame.rest s) + s.load below :=
  List.sum_cons

theorem load_append (above below : List Frame) :
    s.load (above ++ below) = s.load above + s.load below := by
  simp [load]

theorem load_le_of_suffix {frames below : List Frame} (h : below <:+ frames) :
    s.load below ≤ s.load frames := by
  obtain ⟨above, rfl⟩ := h
  rw [load_append]
  omega

theorem size_rest_le (frame : Frame) :
    Program.size (frame.rest s) ≤ Program.size (s.ops frame.body) :=
  Program.size_drop_le _ _

end Script

variable [Scalar R] {s : Script R}

theorem Instr.Runs.mem_bodies {instr : Instr R} {body : BodyId} {kind : FrameKind}
    (h : instr.Runs body kind) : body ∈ instr.bodies := by
  cases h with
  | branch hloop hbody => exact hbody
  | repeatTimes | forever | repeatUntil | whileDo => exact List.mem_cons_self

theorem Instr.Runs.size_lt {instr : Instr R} {body : BodyId} {kind : FrameKind}
    (h : instr.Runs body kind) : Program.size (s.ops body) < (instr.op s).size := by
  apply Program.size_lt_of_mem_bodies
  rw [Instr.bodies_op]
  exact List.mem_map_of_mem h.mem_bodies

namespace Script.Path

variable {frame inner outer : Frame} {above below : List Frame}

theorem size_inner_lt (htree : s.Tree) (h : s.Path (inner :: outer :: below)) :
    ∃ n, outer.next = n + 1 ∧
      Program.size (s.ops inner.body) + Program.size (outer.rest s) <
        Program.size ((s.ops outer.body).drop n) := by
  cases h with
  | @inside _ _ _ n instr hpath hnext hinstr hruns hfits =>
    refine ⟨n, hnext, ?_⟩
    have hsize := hruns.size_lt (s := s)
    have hdrop := Script.drop_ops_of_instr? htree hinstr
    have hrest : outer.rest s = (s.ops outer.body).drop (n + 1) := by
      unfold Frame.rest
      rw [hnext]
    dsimp only at hdrop
    rw [hdrop, Program.size_cons, ← hrest]
    omega

theorem size_le (htree : s.Tree) (h : s.Path (frame :: below)) :
    Program.size (s.ops frame.body) + s.load below ≤ Program.size (s.ops root) := by
  induction below generalizing frame with
  | nil =>
    cases h with
    | outermost hbody =>
      rw [hbody, load_nil]
      omega
  | cons outer below ih =>
    obtain ⟨n, -, hlt⟩ := h.size_inner_lt htree
    have hdrop := Program.size_drop_le (s.ops outer.body) n
    have hle := ih h.tail
    rw [load_cons]
    omega

theorem load_le (htree : s.Tree) {frames : List Frame} (h : s.Path frames) :
    s.load frames ≤ Program.size (s.ops root) := by
  cases frames with
  | nil => exact Nat.zero_le _
  | cons frame below =>
    have hle := h.size_le htree
    have hrest := size_rest_le (s := s) frame
    rw [load_cons]
    omega

theorem load_above_lt (htree : s.Tree) (h : s.Path (inner :: (above ++ frame :: below))) :
    ∃ n, frame.next = n + 1 ∧
      Program.size (s.ops inner.body) + s.load above + Program.size (frame.rest s) <
        Program.size ((s.ops frame.body).drop n) := by
  induction above generalizing inner with
  | nil =>
    obtain ⟨n, hnext, hlt⟩ := h.size_inner_lt htree
    exact ⟨n, hnext, by rw [load_nil]; omega⟩
  | cons outer above ih =>
    obtain ⟨m, -, hlt⟩ := h.size_inner_lt htree
    obtain ⟨n, hnext, hle⟩ := ih h.tail
    have hdrop := Program.size_drop_le (s.ops outer.body) m
    refine ⟨n, hnext, ?_⟩
    rw [load_cons]
    omega

end Script.Path

end ReefRover
