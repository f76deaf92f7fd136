import Mathlib.Algebra.Order.BigOperators.Group.List
import Mathlib.Algebra.Order.Ring.Nat
import ReefRover.Program.Script

/-!
This module contains the bodies of a program at all levels of nesting, and what is said of programs
by way of them: which blocks a program has, how many, and which of its bodies lie in no loop.
-/

namespace ReefRover

variable {R : Type}

theorem Op.sizeOf_lt_of_mem_bodies {op : Op R} {body : List (Op R)} (h : body ∈ op.bodies) :
    sizeOf body < sizeOf op := by
  cases op <;> simp only [Op.bodies, List.mem_cons, List.not_mem_nil, or_false] at h
  case ifThenElse =>
    rcases h with rfl | rfl
    all_goals
      simp
      try omega
  case ifElseIfElse =>
    rcases h with rfl | rfl | rfl
    all_goals
      simp
      try omega
  all_goals
    subst h
    simp
    try omega

theorem Op.sizeOf_body_lt {p : Program R} {op : Op R} {body : List (Op R)} (hop : op ∈ p)
    (hbody : body ∈ op.bodies) : sizeOf body < sizeOf p := by
  have h1 := Op.sizeOf_lt_of_mem_bodies hbody
  have h2 := List.sizeOf_lt_of_mem hop
  omega

def Op.isLoop : Op R → Bool
  | .repeatTimes .. | .forever _ | .repeatUntil .. | .whileDo .. => true
  | .action _ | .waitUntil _ | .ifThen .. | .ifThenElse .. | .ifElseIfElse .. | .breakLoop
  | .stopProject => false

namespace Program

theorem bodyInduction {P : Program R → Prop}
    (step : ∀ p, (∀ op ∈ p, ∀ body ∈ op.bodies, P body) → P p) (p : Program R) : P p := by
  apply step
  intro op hop body hbody
  exact bodyInduction step body
termination_by sizeOf p
decreasing_by exact Op.sizeOf_body_lt hop hbody

/-- The bodies of a program: its own list of blocks first, then those inside, at all levels. -/
def bodies (p : Program R) : List (List (Op R)) :=
  p :: p.flatMap fun op => op.bodies.attach.flatMap fun body => bodies body.val
termination_by sizeOf p
decreasing_by
  apply Op.sizeOf_body_lt
  . assumption
  . exact body.property

def blocks (p : Program R) : List (Op R) :=
  (bodies p).flatten

/-- The bodies of a program that lie in no loop. -/
def unlooped (p : Program R) : List (List (Op R)) :=
  p :: p.flatMap fun op =>
    if op.isLoop then [] else op.bodies.attach.flatMap fun body => unlooped body.val
termination_by sizeOf p
decreasing_by
  apply Op.sizeOf_body_lt
  . assumption
  . exact body.property

def size (p : Program R) : Nat :=
  (blocks p).length

end Program

def Op.size (op : Op R) : Nat :=
  1 + (op.bodies.map Program.size).sum

namespace Program

theorem bodies_eq (p : Program R) :
    bodies p = p :: p.flatMap fun op => op.bodies.flatMap bodies := by
  rw [bodies]
  simp only [List.flatMap_subtype, List.unattach_attach]

theorem unlooped_eq (p : Program R) :
    unlooped p =
      p :: p.flatMap fun op => if op.isLoop then [] else op.bodies.flatMap unlooped := by
  rw [unlooped]
  simp only [List.flatMap_subtype, List.unattach_attach]

theorem mem_bodies_self (p : Program R) : p ∈ bodies p := by
  rw [bodies_eq]
  apply List.mem_cons_self

theorem blocks_eq (p : Program R) :
    blocks p = p ++ p.flatMap fun op => op.bodies.flatMap blocks := by
  have hblocks : blocks = fun p : Program R => (bodies p).flatMap id := by
    funext p
    rw [blocks, List.flatMap_id]
  simp only [hblocks]
  rw [bodies_eq, List.flatMap_cons]
  simp only [List.flatMap_assoc, id_eq]

@[simp]
theorem size_nil : size ([] : Program R) = 0 := by
  simp [size, blocks_eq]

theorem size_eq (p : Program R) : size p = (p.map Op.size).sum := by
  rw [size, blocks_eq]
  induction p with
  | nil => rfl
  | cons op p ih =>
    -- the blocks of `op` stand between those of `p` here, so `ih` is combined by counting
    simp only [List.length_append, List.length_cons, List.flatMap_cons, List.map_cons,
      List.sum_cons, Op.size] at ih ⊢
    have hop : (op.bodies.flatMap blocks).length = (op.bodies.map size).sum := by
      rw [List.length_flatMap]
      rfl
    omega

@[simp]
theorem size_cons (op : Op R) (p : Program R) : size (op :: p) = op.size + size p := by
  simp [size_eq]

theorem size_lt_of_mem_bodies {op : Op R} {body : List (Op R)} (h : body ∈ op.bodies) :
    size body < op.size := by
  have := List.le_sum_of_mem (List.mem_map_of_mem (f := size) h)
  rw [Op.size]
  omega

theorem mem_bodies_trans {p : Program R} {op : Op R} {body outer : List (Op R)}
    (houter : outer ∈ bodies p) (hop : op ∈ outer) (hbody : body ∈ op.bodies) :
    body ∈ bodies p := by
  -- `outer` is the list of blocks itself or lies inside one of them, where the induction applies
  induction p using bodyInduction with
  | step p ih =>
    rw [bodies_eq, List.mem_cons, List.mem_flatMap] at houter ⊢
    right
    rcases houter with rfl | ⟨op', hop', houter⟩
    . exact ⟨op, hop, List.mem_flatMap.mpr ⟨body, hbody, mem_bodies_self body⟩⟩
    . obtain ⟨body', hbody', houter⟩ := List.mem_flatMap.mp houter
      exact ⟨op', hop', List.mem_flatMap.mpr ⟨body', hbody', ih op' hop' body' hbody' houter⟩⟩

theorem mem_unlooped_self (p : Program R) : p ∈ unlooped p := by
  rw [unlooped_eq]
  apply List.mem_cons_self

theorem mem_unlooped_trans {p : Program R} {op : Op R} {body outer : List (Op R)}
    (houter : outer ∈ unlooped p) (hop : op ∈ outer) (hloop : op.isLoop = false)
    (hbody : body ∈ op.bodies) : body ∈ unlooped p := by
  induction p using bodyInduction with
  | step p ih =>
    rw [unlooped_eq, List.mem_cons, List.mem_flatMap] at houter ⊢
    right
    rcases houter with rfl | ⟨op', hop', houter⟩
    . refine ⟨op, hop, ?_⟩
      simpa [hloop] using ⟨body, hbody, mem_unlooped_self body⟩
    . refine ⟨op', hop', ?_⟩
      by_cases hloop' : op'.isLoop
      . simp [hloop'] at houter
      . simp only [hloop', Bool.false_eq_true, if_false, List.mem_flatMap] at houter ⊢
        obtain ⟨body', hbody', houter⟩ := houter
        exact ⟨body', hbody', ih op' hop' body' hbody' houter⟩

theorem mem_blocks {p : Program R} {op : Op R} {body : List (Op R)} (hbody : body ∈ bodies p)
    (hop : op ∈ body) : op ∈ blocks p :=
  List.mem_flatten.mpr ⟨body, hbody, hop⟩

end Program

theorem Op.innerBodies_eq (op : Op R) :
    op.innerBodies = (op.bodies.map fun body => 1 + Op.bodiesWithin body).sum := by
  cases op <;> simp [Op.innerBodies, Op.bodies]
  omega

theorem Op.bodiesWithin_eq (p : Program R) :
    Op.bodiesWithin p = (p.map Op.innerBodies).sum := by
  induction p with
  | nil => rfl
  | cons op p ih => simp [Op.bodiesWithin, ih]

theorem Program.length_bodies (p : Program R) :
    (bodies p).length = 1 + Op.bodiesWithin p := by
  induction p using bodyInduction with
  | step p ih =>
    rw [bodies_eq, List.length_cons, List.length_flatMap, Op.bodiesWithin_eq, Nat.add_comm]
    congr 2
    apply List.map_congr_left
    intro op hop
    rw [List.length_flatMap, Op.innerBodies_eq]
    congr 1
    apply List.map_congr_left
    intro body hbody
    exact ih op hop body hbody

end ReefRover
