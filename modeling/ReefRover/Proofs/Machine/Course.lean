import ReefRover.Proofs.Machine.Moves
import ReefRover.Proofs.Walk.Simulation

/-!
This module contains the course of a timestep: the machines that it passes through, step by step,
until it halts. Nothing in it bounds the number of steps. The proof that a timestep always has a
course, that no place is come to twice in it, and that no loop goes through two iterations stands at
the end.
-/

namespace ReefRover

variable {R : Type}

namespace Machine

def Continues (m m' : Machine R) : Prop :=
  ∀ f ∈ m.frames, ∀ g ∈ m'.frames, f.body = g.body →
    g.kind = f.kind ∧ f.next ≤ g.next ∧ (g.checkPending = true → f.checkPending = true)

/-- What is said of the machines that a timestep passes through, and of the one it ends in. -/
structure Orderly (s : Script R) (states : List (Machine R)) (m' : Machine R)
    (result : Except (ExecutionError R) Progress) : Prop where
  executed_exists : ∀ slot ∈ states.filterMap slot?, (s.instr? slot).isSome = true
  executed_once : (states.filterMap slot?).Nodup
  executed_le : (states.filterMap slot?).length ≤ s.instrCount
  continues : states.Pairwise Continues
  continues_unless_pending : result ≠ .ok .pending → ∀ t ∈ states, t.Continues m'
  pending_of_turnsOver : ∀ t ∈ states, t.TurnsOver →
    result = .ok .pending ∧ states.getLast? = some t

theorem orderly_nil {s : Script R} {m : Machine R} {result : Except (ExecutionError R) Progress} :
    Orderly s [] m result where
  executed_exists := nofun
  executed_once := List.nodup_nil
  executed_le := Nat.zero_le _
  continues := .nil
  continues_unless_pending := nofun
  pending_of_turnsOver := nofun

end Machine

variable [Scalar R]

/-- The steps of a timestep up to where it halts, however many there are. -/
inductive Machine.Course (around : Surroundings R) :
    Machine R → List (Machine R) → Machine R → Except (ExecutionError R) Progress → Prop where
  | halts {m m' : Machine R} {result : Except (ExecutionError R) Progress}
      (h : m.step around = .halt m' result) : Course around m [m] m' result
  | goesOn {m next m' : Machine R} {states : List (Machine R)}
      {result : Except (ExecutionError R) Progress} (h : m.step around = .next next)
      (hrest : Course around next states m' result) : Course around m (m :: states) m' result

namespace Machine

theorem step_of_turnsOver {m : Machine R} (around : Surroundings R) (h : m.TurnsOver) :
    ∃ m', m.step around = .halt m' (.ok .pending) := by
  obtain ⟨frame, below, frame', hframes, hcheck, hinstr, hrewound⟩ := h
  have hget : (m.script.body frame.body)[frame.next]? = none := hinstr
  unfold step
  rw [hframes]
  simp only [hcheck, Bool.false_eq_true, if_false, hget]
  rw [endBody_eq, hrewound]
  exact ⟨_, rfl⟩

theorem moves_of_step_eq {m : Machine R} {around : Surroundings R} {step : Step R}
    (hpath : m.OnPath) (hstep : m.step around = step) (hgoes : ∀ t, step ≠ .halt t (.ok .pending)) :
    step.machine.OnPath ∧ step.machine.script = m.script ∧
      m.script.Moves m.frames m.slot? step.machine.frames := by
  have hturns : ¬ m.TurnsOver := by
    intro hturns
    obtain ⟨t, hhalt⟩ := step_of_turnsOver around hturns
    rw [hstep] at hhalt
    exact hgoes t hhalt
  rw [← hstep]
  obtain ⟨hpath', hscript⟩ := onPath_step around hpath
  exact ⟨hpath', hscript, moves_step around hturns⟩

theorem moves_of_step_eq_next {m next : Machine R} {around : Surroundings R} (hpath : m.OnPath)
    (hstep : m.step around = .next next) :
    next.OnPath ∧ next.script = m.script ∧ m.script.Moves m.frames m.slot? next.frames :=
  moves_of_step_eq hpath hstep nofun

theorem moves_of_step_eq_halt {m m' : Machine R} {around : Surroundings R}
    {result : Except (ExecutionError R) Progress} (hpath : m.OnPath)
    (hstep : m.step around = .halt m' result) (hresult : result ≠ .ok .pending) :
    m'.OnPath ∧ m'.script = m.script ∧ m.script.Moves m.frames m.slot? m'.frames := by
  apply moves_of_step_eq hpath hstep
  intro t heq
  cases heq
  exact hresult rfl

namespace Course

variable {around : Surroundings R} {m m' : Machine R} {states : List (Machine R)}
  {result : Except (ExecutionError R) Progress}

theorem turnsOver_last (h : Course around m states m' result) {t : Machine R} (ht : t ∈ states)
    (hturns : t.TurnsOver) : result = .ok .pending ∧ states.getLast? = some t := by
  obtain ⟨t', hhalt⟩ := step_of_turnsOver around hturns
  induction h with
  | halts h =>
    obtain rfl := List.mem_singleton.mp ht
    rw [hhalt] at h
    cases h
    exact ⟨rfl, rfl⟩
  | goesOn h hrest ih =>
    rcases List.mem_cons.mp ht with rfl | ht
    . rw [hhalt] at h
      cases h
    . obtain ⟨hresult, hlast⟩ := ih ht
      refine ⟨hresult, ?_⟩
      rw [List.getLast?_cons, hlast]
      rfl

theorem reaches (h : Course around m states m' result) (htree : m.script.Tree) (hpath : m.OnPath)
    {frames : List Frame} (hframes : m.script.Path frames)
    (hreaches : m.script.Reaches frames m.frames) :
    (∀ t ∈ states, t.script = m.script ∧ m.script.Reaches frames t.frames) ∧
      (result ≠ .ok .pending → m'.script = m.script ∧ m.script.Reaches frames m'.frames) := by
  induction h with
  | @halts m m' result h =>
    constructor
    . intro t ht
      obtain rfl := List.mem_singleton.mp ht
      exact ⟨rfl, hreaches⟩
    . intro hresult
      obtain ⟨hpath', hscript, hmoves⟩ := moves_of_step_eq_halt hpath h hresult
      unfold OnPath at hpath'
      rw [hscript] at hpath'
      exact ⟨hscript, hreaches.moves htree hframes hmoves hpath'⟩
  | @goesOn m next m' states result h hrest ih =>
    obtain ⟨hpath', hscript, hmoves⟩ := moves_of_step_eq_next hpath h
    have hframes' : m.script.Path next.frames := by
      rw [← hscript]
      exact hpath'
    have hnext := hreaches.moves htree hframes hmoves hframes'
    rw [← hscript] at htree hframes hnext
    obtain ⟨hstates, hend⟩ := ih htree hpath' hframes hnext
    rw [hscript] at hstates hend
    refine ⟨?_, hend⟩
    intro t ht
    rcases List.mem_cons.mp ht with rfl | ht
    . exact ⟨rfl, hreaches⟩
    . exact hstates t ht

end Course

theorem continues_of_reaches {m t : Machine R} (htree : m.script.Tree) (hpath : m.OnPath)
    (hreaches : m.script.Reaches m.frames t.frames) : m.Continues t := by
  intro f hf g hg hbody
  obtain ⟨hkind, hcheck⟩ := hreaches.kept f hf g hg hbody
  have hnext := hpath.next_le_of_load_le htree hreaches.path hreaches.load_le hf hg hbody
  exact ⟨hkind, hnext, hcheck⟩

theorem load_eq_of_slot? {m t : Machine R} {slot : Slot} (htree : m.script.Tree)
    (hpath : m.script.Path m.frames) (hpath' : m.script.Path t.frames) (hm : m.slot? = some slot)
    (ht : t.slot? = some slot) : m.script.load m.frames = m.script.load t.frames := by
  obtain ⟨frame, below, hframes, hslot, -⟩ := slot?_eq_some hm
  obtain ⟨frame', below', hframes', hslot', -⟩ := slot?_eq_some ht
  rw [hframes] at hpath ⊢
  rw [hframes'] at hpath' ⊢
  have heq : frame.slot = frame'.slot := by rw [hslot, hslot']
  have hbelow := hpath.slots_eq htree hpath' (congrArg Slot.body heq)
  apply Script.load_eq_of_slots
  rw [List.map_cons, List.map_cons, heq, hbelow]

namespace Course

variable {around : Surroundings R} {m m' : Machine R} {states : List (Machine R)}
  {result : Except (ExecutionError R) Progress}

theorem continues (h : Course around m states m' result) (htree : m.script.Tree)
    (hpath : m.OnPath) :
    states.Pairwise Continues ∧ (result ≠ .ok .pending → ∀ t ∈ states, t.Continues m') := by
  induction h with
  | @halts m m' result h =>
    refine ⟨List.pairwise_singleton _ _, ?_⟩
    -- the machine that a timestep ends in counts too, unless a loop may have been rewound
    intro hresult t ht
    obtain rfl := List.mem_singleton.mp ht
    obtain ⟨-, hend⟩ := (Course.halts h).reaches htree hpath hpath (.refl htree hpath)
    exact continues_of_reaches htree hpath (hend hresult).2
  | @goesOn m next m' states result h hrest ih =>
    obtain ⟨hstates, hend⟩ := (Course.goesOn h hrest).reaches htree hpath hpath (.refl htree hpath)
    obtain ⟨hpath', hscript, -⟩ := moves_of_step_eq_next hpath h
    rw [← hscript] at htree
    obtain ⟨hpairwise, hcontinues⟩ := ih htree hpath'
    rw [hscript] at htree
    constructor
    . apply List.Pairwise.cons _ hpairwise
      intro t ht
      exact continues_of_reaches htree hpath (hstates t (List.mem_cons_of_mem _ ht)).2
    . intro hresult t ht
      rcases List.mem_cons.mp ht with rfl | ht
      . exact continues_of_reaches htree hpath (hend hresult).2
      . exact hcontinues hresult t ht

theorem executed_le (h : Course around m states m' result) (htree : m.script.Tree)
    (hpath : m.OnPath) : (states.filterMap slot?).length ≤ m.script.load m.frames := by
  induction h with
  | @halts m m' result h =>
    have hle := length_slot?_le m htree
    rw [filterMap_slot?_cons]
    simpa using hle
  | @goesOn m next m' states result h hrest ih =>
    obtain ⟨hpath', hscript, hmoves⟩ := moves_of_step_eq_next hpath h
    have hle := hmoves.load_le htree
    have hrest' := ih (by rw [hscript]; exact htree) hpath'
    rw [hscript] at hrest'
    rw [filterMap_slot?_cons, List.length_append]
    omega

theorem executed_once (h : Course around m states m' result) (htree : m.script.Tree)
    (hpath : m.OnPath) : (states.filterMap slot?).Nodup := by
  induction h with
  | @halts m m' result h =>
    rw [filterMap_slot?_cons]
    cases m.slot? <;> simp
  | @goesOn m next m' states result h hrest ih =>
    obtain ⟨hpath', hscript, hmoves⟩ := moves_of_step_eq_next hpath h
    have htree' : next.script.Tree := by
      rw [hscript]
      exact htree
    have hnodup := ih htree' hpath'
    rw [filterMap_slot?_cons]
    cases hslot : m.slot? with
    | none => exact hnodup
    | some slot =>
      -- coming to `slot` again needs as much to be left as before `slot` was executed
      apply List.Nodup.cons _ hnodup
      intro hmem
      obtain ⟨t, ht, hslot'⟩ := List.mem_filterMap.mp hmem
      obtain ⟨hstates, -⟩ := hrest.reaches htree' hpath' hpath' (.refl htree' hpath')
      have hreaches := (hstates t ht).2
      rw [hscript] at hreaches
      have heq := load_eq_of_slot? htree hpath hreaches.path hslot hslot'
      have hle := hmoves.load_le htree
      have hle' := hreaches.load_le
      rw [hslot] at hle
      simp only [Option.toList_some, List.length_singleton] at hle
      omega

theorem executed_exists (h : Course around m states m' result) (htree : m.script.Tree)
    (hpath : m.OnPath) :
    ∀ slot ∈ states.filterMap slot?, (m.script.instr? slot).isSome = true := by
  intro slot hmem
  obtain ⟨t, ht, hslot⟩ := List.mem_filterMap.mp hmem
  obtain ⟨hstates, -⟩ := h.reaches htree hpath hpath (.refl htree hpath)
  obtain ⟨-, -, -, -, hinstr⟩ := slot?_eq_some hslot
  rw [(hstates t ht).1] at hinstr
  exact hinstr

theorem orderly (h : Course around m states m' result) (htree : m.script.Tree) (hpath : m.OnPath)
    (hcount : m.script.instrCount = Program.size (m.script.ops Script.root)) :
    Orderly m.script states m' result where
  executed_exists := h.executed_exists htree hpath
  executed_once := h.executed_once htree hpath
  executed_le := by
    rw [hcount]
    exact Nat.le_trans (h.executed_le htree hpath) (hpath.load_le htree)
  continues := (h.continues htree hpath).1
  continues_unless_pending := (h.continues htree hpath).2
  pending_of_turnsOver := fun _ => h.turnsOver_last

theorem run_eq (h : Course around m states m' result) (budget : Nat)
    (hbudget : states.length ≤ budget) : run around budget m = (m', result) := by
  induction h generalizing budget with
  | halts h =>
    obtain ⟨n, rfl⟩ := Nat.exists_eq_succ_of_ne_zero (Nat.ne_zero_of_lt hbudget)
    rw [run, h]
  | goesOn h hrest ih =>
    rw [List.length_cons] at hbudget
    obtain ⟨n, rfl⟩ := Nat.exists_eq_succ_of_ne_zero (Nat.ne_zero_of_lt hbudget)
    rw [run, h]
    exact ih n (Nat.le_of_succ_le_succ hbudget)

end Course

theorem exists_course (around : Surroundings R) {m : Machine R} (htree : m.script.Tree)
    (hpath : m.OnPath) :
    ∃ states m' result, Course around m states m' result ∧ states.length ≤ m.walker.weight + 1 := by
  -- the weight of the walk bounds the number of steps, whatever the machine's own budget
  have hstride := step_walker around htree hpath
  cases hstep : m.step around with
  | halt m' result =>
    exact ⟨[m], m', result, .halts hstep, Nat.succ_le_succ (Nat.zero_le _)⟩
  | next next =>
    rw [hstep] at hstride
    have hwalk : m.walker.step around = (next.walker, none) := hstride.symm
    have hlt := Walker.step_weight_lt hwalk
    obtain ⟨hpath', hscript, -⟩ := moves_of_step_eq_next hpath hstep
    have htree' : next.script.Tree := by
      rw [hscript]
      exact htree
    obtain ⟨states, m', result, hcourse, hlength⟩ := exists_course around htree' hpath'
    refine ⟨m :: states, m', result, .goesOn hstep hcourse, ?_⟩
    rw [List.length_cons]
    omega
termination_by m.walker.weight

/--
The course of a whole timestep of `dt` seconds, with what happens before the first step. A timestep
that does not get to its first step passes through no machine.
-/
inductive Advances (m : Machine R) (around : Surroundings R) (dt : R) :
    List (Machine R) → Machine R → Except (ExecutionError R) Progress → Prop where
  | cancelled (h : m.cancelled = true) :
    Advances m around dt [] { m with console := #[] } (.ok .cancelled)
  | finished (hcancelled : m.cancelled = false) (h : m.isDone = true) :
    Advances m around dt [] { m with console := #[] } (.ok .finished)
  | fails {e : ExecutionError R} (hcancelled : m.cancelled = false) (hdone : m.isDone = false)
      (h : { m with console := #[] }.serve around dt = .error e) :
    Advances m around dt [] { m with console := #[] } (.error e)
  | waits {wait : Wait R} (hcancelled : m.cancelled = false) (hdone : m.isDone = false)
      (h : { m with console := #[] }.serve around dt = .ok (some wait)) :
    Advances m around dt [] { m with console := #[], wait } (.ok .pending)
  | runs {states : List (Machine R)} {m' : Machine R}
      {result : Except (ExecutionError R) Progress} (hcancelled : m.cancelled = false)
      (hdone : m.isDone = false) (h : { m with console := #[] }.serve around dt = .ok none)
      (hcourse : Course around { m with console := #[], wait := .nothing } states m' result) :
    Advances m around dt states m' result

theorem Runs.exists_advances {m : Machine R} {p : Program R} (h : m.Runs p)
    (around : Surroundings R) (dt : R) :
    ∃ states, m.Advances around dt states (m.advance around dt).1 (m.advance around dt).2 ∧
      Orderly m.script states (m.advance around dt).1 (m.advance around dt).2 := by
  unfold advance
  dsimp only
  split
  . next hcancelled => exact ⟨[], .cancelled hcancelled, orderly_nil⟩
  . next hcancelled =>
    have hcancelled : m.cancelled = false := Bool.eq_false_of_not_eq_true hcancelled
    split
    . next hdone => exact ⟨[], .finished hcancelled hdone, orderly_nil⟩
    . next hdone =>
      have hdone : m.isDone = false := Bool.eq_false_of_not_eq_true hdone
      split
      . next hserve => exact ⟨[], .fails hcancelled hdone hserve, orderly_nil⟩
      . next hserve => exact ⟨[], .waits hcancelled hdone hserve, orderly_nil⟩
      . next hserve =>
        have hcount : m.script.instrCount = Program.size (m.script.ops Script.root) := by
          rw [h.instrCount_eq, h.ops_root]
        obtain ⟨states, m', result, hcourse, hlength⟩ :=
          exists_course (m := { m with console := #[], wait := .nothing }) around h.tree h.onPath
        have hweight := weight_walker_lt (m := { m with console := #[], wait := .nothing }) h.tree
          h.onPath hcount
        have hrun := hcourse.run_eq m.budget (Nat.le_trans hlength hweight)
        have hbudget : { m with console := #[] }.budget = m.budget := rfl
        rw [hbudget, hrun]
        exact ⟨states, .runs hcancelled hdone hserve hcourse,
          hcourse.orderly h.tree h.onPath hcount⟩

end Machine

namespace Interpreter

structure Call (R : Type) where
  rig : Rig R
  around : Surroundings R
  dt : R

def start (p : Program R) : Interpreter R :=
  { script := .ofProgram p }

def onRig (i : Interpreter R) (rig : Rig R) : Machine R :=
  { toInterpreter := i, toRig := rig }

def after (i : Interpreter R) (calls : List (Call R)) : Interpreter R :=
  calls.foldl (fun i call => ((i.onRig call.rig).advance call.around call.dt).1.toInterpreter) i

theorem runs_after {i : Interpreter R} {p : Program R} {rig : Rig R} (h : (i.onRig rig).Runs p)
    (calls : List (Call R)) : ((i.after calls).onRig rig).Runs p := by
  induction calls generalizing i with
  | nil => exact h
  | cons call calls ih =>
    have hcall : (i.onRig call.rig).Runs p := ⟨h.script_eq, h.onPath⟩
    have hnext := hcall.handle (.advance call.around call.dt)
    exact ih ⟨hnext.script_eq, hnext.onPath⟩

/-- No call hangs, comes to an instruction twice, or goes through two iterations of a loop. -/
theorem call_orderly (p : Program R) (calls : List (Call R)) (call : Call R) :
    let m := ((start p).after calls).onRig call.rig
    let ended := m.advance call.around call.dt
    ∃ states, m.Advances call.around call.dt states ended.1 ended.2 ∧
      Machine.Orderly m.script states ended.1 ended.2 := by
  have hstart : ((start p).onRig call.rig).Runs p :=
    ⟨rfl, Machine.onPath_launch _ call.rig.robot⟩
  exact (runs_after hstart calls).exists_advances call.around call.dt

end Interpreter

end ReefRover
