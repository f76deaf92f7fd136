import Mathlib.Data.List.MinMax
import ReefRover.Proofs.Machine.Still

/-!
This module contains the invariant of an interpreter, whatever rigs it is called with and whatever
its calls come to: its frames lead into the program from the outside in, so there are no more of
them than the program is nested deep, and every body and every condition that they come to exists.
-/

namespace ReefRover

variable {R : Type}

namespace Program

/-- How deep the bodies of a program lie in each other. -/
def nesting (p : Program R) : Nat :=
  (p.flatMap fun op => op.bodies.attach.map fun body => nesting body.val + 1).foldr max 0
termination_by sizeOf p
decreasing_by
  apply Op.sizeOf_body_lt
  . assumption
  . exact body.property

theorem nesting_eq (p : Program R) :
    nesting p = (p.flatMap fun op => op.bodies.map fun body => nesting body + 1).foldr max 0 := by
  rw [nesting]
  simp only [List.map_subtype, List.unattach_attach]

theorem nesting_lt {p : Program R} {op : Op R} {body : List (Op R)} (hop : op ∈ p)
    (hbody : body ∈ op.bodies) : nesting body < nesting p := by
  rw [nesting_eq p]
  apply List.le_max_of_le' 0 _ (Nat.le_refl (nesting body + 1))
  exact List.mem_flatMap.mpr ⟨op, hop, List.mem_map.mpr ⟨body, hbody, rfl⟩⟩

end Program

theorem Script.op_mem_ops {s : Script R} (h : s.Tree) {slot : Slot} {instr : Instr R}
    (hinstr : s.instr? slot = some instr) : instr.op s ∈ s.ops slot.body := by
  apply List.mem_of_mem_drop (i := slot.position)
  rw [drop_ops_of_instr? h hinstr]
  exact List.mem_cons_self

def FrameKind.condition? : FrameKind → Option CondId
  | .loop (.untilTrue condition) | .loop (.whileTrue condition) => some condition
  | .block | .loop (.times _) | .loop .forever => none

/-- Whether the condition that is waited for, if any, is that of the block just come past. -/
def Interpreter.WaitsInPlace (i : Interpreter R) : Prop :=
  ∀ condition left, i.wait = .poll condition left →
    ∃ frame below position, i.frames = frame :: below ∧ frame.next = position + 1 ∧
      i.script.instr? ⟨frame.body, position⟩ = some (.waitUntil condition)

theorem Interpreter.waitsInPlace_of_nothing {i : Interpreter R} (h : i.wait = .nothing) :
    i.WaitsInPlace := by
  intro condition left hpoll
  rw [h] at hpoll
  cases hpoll

variable [Scalar R]

namespace Instr.Runs

variable {s : Script R} {instr : Instr R} {body : BodyId} {kind : FrameKind}

theorem nesting_lt (htree : s.Tree) {slot : Slot} (hinstr : s.instr? slot = some instr)
    (h : instr.Runs body kind) :
    Program.nesting (s.ops body) < Program.nesting (s.ops slot.body) := by
  apply Program.nesting_lt (Script.op_mem_ops htree hinstr)
  rw [Instr.bodies_op]
  exact List.mem_map_of_mem h.mem_bodies

theorem mem_conditions (h : instr.Runs body kind) {condition : CondId}
    (hcondition : kind.condition? = some condition) : condition ∈ instr.conditions := by
  cases h with
  | repeatUntil | whileDo =>
    cases hcondition
    exact List.mem_cons_self
  | repeatTimes | forever | branch => cases hcondition

end Instr.Runs

namespace Script.Path

variable {s : Script R} {frames : List Frame} {frame : Frame} {below : List Frame}

theorem outermost_eq (h : s.Path frames) (hlast : frames.getLast? = some frame) :
    frame.body = root ∧ frame.kind = .block := by
  induction h with
  | empty => cases hlast
  | outermost hbody hkind =>
    cases hlast
    exact ⟨hbody, hkind⟩
  | inside h hnext hinstr hruns hfits ih =>
    apply ih
    rw [List.getLast?_cons_cons] at hlast
    exact hlast

theorem exists_instr (h : s.Path frames) {inner outer : Frame}
    (hadjacent : [inner, outer] <:+: frames) :
    ∃ position instr, outer.next = position + 1 ∧
      s.instr? ⟨outer.body, position⟩ = some instr ∧ instr.Runs inner.body inner.kind := by
  obtain ⟨above, below, rfl⟩ := hadjacent
  rw [List.append_assoc] at h
  cases h.of_suffix (List.suffix_append _ _) with
  | inside h hnext hinstr hruns hfits => exact ⟨_, _, hnext, hinstr, hruns⟩

theorem fits_of_mem (h : s.Path frames) (hmem : frame ∈ frames) : frame.Fits s := by
  obtain ⟨above, below, rfl⟩ := List.append_of_mem hmem
  exact (h.of_suffix (List.suffix_append _ _)).fits

theorem body_lt (htree : s.Tree) (h : s.Path (frame :: below)) :
    frame.body.index < s.bodyCount := by
  cases h with
  | outermost hbody =>
    rw [hbody]
    exact htree.root_lt
  | inside h hnext hinstr hruns hfits => exact htree.body_lt hinstr hruns.mem_bodies

theorem condition_lt (htree : s.Tree) (h : s.Path (frame :: below)) {condition : CondId}
    (hcondition : frame.kind.condition? = some condition) :
    condition.index < s.conditions.size := by
  cases h with
  | outermost hbody hkind =>
    rw [hkind] at hcondition
    cases hcondition
  | inside h hnext hinstr hruns hfits =>
    exact htree.condition_lt hinstr (hruns.mem_conditions hcondition)

theorem length_add_nesting_le (htree : s.Tree) (h : s.Path (frame :: below)) :
    below.length + Program.nesting (s.ops frame.body) ≤ Program.nesting (s.ops root) := by
  induction below generalizing frame with
  | nil =>
    cases h with
    | outermost hbody =>
      rw [hbody]
      exact Nat.le_of_eq (Nat.zero_add _)
  | cons outer below ih =>
    cases h with
    | inside h hnext hinstr hruns hfits =>
      have hle := ih h
      have hlt := hruns.nesting_lt htree hinstr
      rw [List.length_cons]
      dsimp only at hlt
      omega

theorem length_le (htree : s.Tree) (h : s.Path frames) :
    frames.length ≤ 1 + Program.nesting (s.ops root) := by
  cases frames with
  | nil => exact Nat.zero_le _
  | cons frame below =>
    have hle := h.length_add_nesting_le htree
    rw [List.length_cons]
    omega

end Script.Path

/-! ### What is waited for -/

namespace Machine

variable {m m' : Machine R} {around : Surroundings R} {instr : Instr R}

theorem Executes.wait_eq (h : m.Executes around instr .next m') : m'.wait = m.wait := by
  generalize hflow : Flow.next = flow at h
  cases h with
  | acts hperform =>
    next action outcome =>
      cases outcome with
      | goesOn => rfl
      | moves | sleeps => cases hflow
  | passes | opens | breaks => rfl
  | waits | stops => cases hflow

theorem Executes.waitsInPlace {frame : Frame} {below : List Frame}
    (h : m.Executes around instr .suspend m') (hframes : m.frames = frame.movedOn :: below)
    (hinstr : m.script.instr? frame.slot = some instr) : m'.WaitsInPlace := by
  intro condition left hpoll
  rcases h.wait_of_suspend with hmotion | ⟨seconds, hsleep⟩ | ⟨condition', rfl, rfl⟩
  . rw [hmotion] at hpoll
    cases hpoll
  . rw [hsleep] at hpoll
    cases hpoll
  . cases hpoll
    exact ⟨_, _, _, hframes, rfl, hinstr⟩

theorem waitsInPlace_turn (frame : Frame) (frames : List Frame) :
    { m with frames, wait := betweenIterations frame.kind }.WaitsInPlace := by
  intro condition left hpoll
  exact absurd hpoll (betweenIterations_ne_poll _ _ _)

theorem wait_of_step_next (hwait : m.wait = .nothing) (hstep : m.step around = .next m') :
    m'.wait = .nothing := by
  have htakes := m.takes_step around
  rw [hstep] at htakes
  cases htakes with
  | passesTest | leavesAtTest | leaves => exact hwait
  | executes hframes hcheck hinstr h => exact h.wait_eq.trans hwait

theorem wait_of_step_halt {result : Except (ExecutionError R) Progress} (hwait : m.wait = .nothing)
    (hstep : m.step around = .halt m' result) :
    m'.wait = .nothing ∨ result = .ok .pending ∧ m'.WaitsInPlace := by
  have htakes := m.takes_step around
  rw [hstep] at htakes
  cases htakes with
  | turns => exact .inr ⟨rfl, waitsInPlace_turn _ _⟩
  | suspends hframes hcheck hinstr h => exact .inr ⟨rfl, h.waitsInPlace rfl hinstr⟩
  | stops hframes hcheck hinstr h =>
    rw [h.eq_of_stop]
    exact .inl hwait
  | done | failsAtTest | fails | breaksOut => exact .inl hwait

theorem Course.waits {states : List (Machine R)} {result : Except (ExecutionError R) Progress}
    (h : Course around m states m' result) (hwait : m.wait = .nothing) :
    (∀ t ∈ states, t.wait = .nothing) ∧
      (m'.wait = .nothing ∨ result = .ok .pending ∧ m'.WaitsInPlace) := by
  induction h with
  | halts h =>
    refine ⟨?_, wait_of_step_halt hwait h⟩
    intro t ht
    obtain rfl := List.mem_singleton.mp ht
    exact hwait
  | goesOn h hrest ih =>
    obtain ⟨hstates, hend⟩ := ih (wait_of_step_next hwait h)
    exact ⟨List.forall_mem_cons.mpr ⟨hwait, hstates⟩, hend⟩

theorem Course.runs {states : List (Machine R)} {result : Except (ExecutionError R) Progress}
    {p : Program R} (h : Course around m states m' result) (hruns : m.Runs p) :
    ∀ t ∈ states, t.Runs p := by
  induction h with
  | halts h =>
    intro t ht
    obtain rfl := List.mem_singleton.mp ht
    exact hruns
  | goesOn h hrest ih =>
    obtain ⟨hpath, hscript, -⟩ := moves_of_step_eq_next hruns.onPath h
    have hstates := ih ⟨hscript.trans hruns.script_eq, hpath⟩
    exact List.forall_mem_cons.mpr ⟨hruns, hstates⟩

theorem exists_poll_of_serve {dt left' : R} {condition : CondId}
    (hserve : m.serve around dt = .ok (some (.poll condition left'))) :
    ∃ left, m.wait = .poll condition left := by
  unfold serve at hserve
  split at hserve
  . cases hserve
  . cases hserve
  . split at hserve
    . cases hserve
    . cases hserve
  . dsimp only at hserve
    split at hserve
    . cases hserve
    . cases hserve
  . next hpoll =>
    dsimp only at hserve
    split at hserve
    . cases hserve
      exact ⟨_, hpoll⟩
    . obtain ⟨holds, -, hserve⟩ := bind_eq_ok_iff.mp hserve
      cases holds with
      | true => cases hserve
      | false =>
        cases hserve
        exact ⟨_, hpoll⟩

theorem waitsInPlace_serve {dt : R} {wait : Wait R} (h : m.WaitsInPlace)
    (hserve : m.serve around dt = .ok (some wait)) : { m with wait }.WaitsInPlace := by
  intro condition left' hwait
  dsimp only at hwait
  subst hwait
  obtain ⟨left, hpoll⟩ := exists_poll_of_serve hserve
  exact h condition left hpoll

end Machine

/-! ### The invariant -/

namespace Interpreter

structure Lodged (i : Interpreter R) (p : Program R) : Prop where
  script_eq : i.script = .ofProgram p
  outermost : ∀ frame, i.frames.getLast? = some frame →
    frame.body = Script.root ∧ frame.kind = .block
  inner : ∀ inner outer, [inner, outer] <:+: i.frames →
    ∃ position instr, outer.next = position + 1 ∧
      i.script.instr? ⟨outer.body, position⟩ = some instr ∧ instr.Runs inner.body inner.kind
  next_le : ∀ frame ∈ i.frames, frame.next ≤ (i.script.body frame.body).size
  checkPending : ∀ frame ∈ i.frames, frame.checkPending = true →
    frame.next = 0 ∧ frame.kind.isGuarded = true
  polls : i.WaitsInPlace
  body_lt : ∀ frame ∈ i.frames, frame.body.index < i.script.bodyCount
  condition_lt : ∀ frame ∈ i.frames, ∀ condition, frame.kind.condition? = some condition →
    condition.index < i.script.conditions.size
  named_lt : ∀ slot instr, i.script.instr? slot = some instr →
    (∀ body ∈ instr.bodies, body.index < i.script.bodyCount) ∧
      ∀ condition ∈ instr.conditions, condition.index < i.script.conditions.size
  depth_le : ∀ rig, (i.onRig rig).depth ≤ 1 + p.nesting

theorem lodged {m : Machine R} {p : Program R} (h : m.Runs p) (hpolls : m.WaitsInPlace) :
    m.Lodged p where
  script_eq := h.script_eq
  outermost := fun _ => h.onPath.outermost_eq
  inner := fun _ _ => h.onPath.exists_instr
  next_le := fun _ hmem => (h.onPath.fits_of_mem hmem).next_le
  checkPending := fun _ hmem => (h.onPath.fits_of_mem hmem).fresh
  polls := hpolls
  body_lt := by
    intro frame hmem
    obtain ⟨above, below, hframes⟩ := List.append_of_mem hmem
    have hpath : m.script.Path (above ++ frame :: below) := hframes ▸ h.onPath
    exact (hpath.of_suffix (List.suffix_append _ _)).body_lt h.tree
  condition_lt := by
    intro frame hmem condition
    obtain ⟨above, below, hframes⟩ := List.append_of_mem hmem
    have hpath : m.script.Path (above ++ frame :: below) := hframes ▸ h.onPath
    exact (hpath.of_suffix (List.suffix_append _ _)).condition_lt h.tree
  named_lt := fun _ _ hinstr =>
    ⟨fun _ => h.tree.body_lt hinstr, fun _ => h.tree.condition_lt hinstr⟩
  depth_le := by
    intro rig
    have hle := h.onPath.length_le h.tree
    rw [h.ops_root] at hle
    exact hle

end Interpreter

namespace Machine

variable {m m' : Machine R} {around : Surroundings R} {dt : R} {states : List (Machine R)}
  {result : Except (ExecutionError R) Progress}

theorem Advances.waitsInPlace (h : m.Advances around dt states m' result)
    (hplace : m.WaitsInPlace) : (∀ t ∈ states, t.wait = .nothing) ∧ m'.WaitsInPlace := by
  cases h with
  | cancelled | finished | fails => exact ⟨nofun, hplace⟩
  | waits hcancelled hdone hserve =>
    have hplace' : { m with console := #[] }.WaitsInPlace := hplace
    exact ⟨nofun, waitsInPlace_serve hplace' hserve⟩
  | runs hcancelled hdone hserve hcourse =>
    obtain ⟨hstates, hend⟩ := hcourse.waits rfl
    exact ⟨hstates, hend.elim Interpreter.waitsInPlace_of_nothing And.right⟩

theorem Runs.waitsInPlace_handle {p : Program R} (h : m.Runs p) (hplace : m.WaitsInPlace)
    (event : Event R) : (m.handle event).WaitsInPlace := by
  cases event with
  | cancel | animate => exact hplace
  | advance around dt =>
    obtain ⟨states, hadvances, -⟩ := h.exists_advances around dt
    exact (hadvances.waitsInPlace hplace).2

theorem Runs.waitsInPlace_after {p : Program R} (h : m.Runs p) (hplace : m.WaitsInPlace)
    (events : List (Event R)) : (m.after events).WaitsInPlace := by
  induction events generalizing m with
  | nil => exact hplace
  | cons event events ih => exact ih (h.handle event) (h.waitsInPlace_handle hplace event)

theorem Advances.runs_of_mem {p : Program R} (h : m.Advances around dt states m' result)
    (hruns : m.Runs p) : ∀ t ∈ states, t.Runs p := by
  cases h with
  | cancelled | finished | fails | waits => nofun
  | runs hcancelled hdone hserve hcourse => exact hcourse.runs ⟨hruns.script_eq, hruns.onPath⟩

end Machine

namespace Interpreter

theorem waitsInPlace_after {i : Interpreter R} {p : Program R} {rig : Rig R}
    (h : (i.onRig rig).Runs p) (hplace : i.WaitsInPlace) (calls : List (Call R)) :
    (i.after calls).WaitsInPlace := by
  induction calls generalizing i with
  | nil => exact hplace
  | cons call calls ih =>
    have hcall : (i.onRig call.rig).Runs p := ⟨h.script_eq, h.onPath⟩
    obtain ⟨states, hadvances, -⟩ := hcall.exists_advances call.around call.dt
    have hnext := hcall.handle (.advance call.around call.dt)
    exact ih ⟨hnext.script_eq, hnext.onPath⟩ (hadvances.waitsInPlace hplace).2

/--
The frames of an interpreter are a path into its program, and never longer than the program is
nested deep: after any calls, failed ones included, within the next call, and when that has ended.
-/
theorem lodged_after (p : Program R) (calls : List (Call R)) (call : Call R) :
    let i := (start p).after calls
    let ended := (i.onRig call.rig).advance call.around call.dt
    i.Lodged p ∧
      ∃ states, (i.onRig call.rig).Advances call.around call.dt states ended.1 ended.2 ∧
        (∀ m ∈ states, m.Lodged p) ∧ ended.1.Lodged p := by
  have hlaunched : ((start p).onRig call.rig).Runs p :=
    ⟨rfl, Machine.onPath_launch _ call.rig.robot⟩
  have hruns : (((start p).after calls).onRig call.rig).Runs p := runs_after hlaunched calls
  have hplace : ((start p).after calls).WaitsInPlace :=
    waitsInPlace_after hlaunched (waitsInPlace_of_nothing rfl) calls
  obtain ⟨states, hadvances, -⟩ := hruns.exists_advances call.around call.dt
  obtain ⟨hwaits, hplace'⟩ := hadvances.waitsInPlace hplace
  have hstates := hadvances.runs_of_mem hruns
  refine ⟨lodged hruns hplace, states, hadvances, ?_, ?_⟩
  . intro m hm
    exact lodged (hstates m hm) (waitsInPlace_of_nothing (hwaits m hm))
  . exact lodged (hruns.handle (.advance call.around call.dt)) hplace'

end Interpreter

end ReefRover
