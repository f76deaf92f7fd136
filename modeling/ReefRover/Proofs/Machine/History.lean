import Mathlib.Data.List.Chain
import ReefRover.Proofs.Machine.Kept
import ReefRover.Proofs.Machine.Nesting
import ReefRover.Proofs.Machine.Timeless

/-!
This module contains the history of a session: all the steps of its program in order, whichever
timesteps they are in. Each moment of it follows from the one before. Either the step leads there in
the same timestep, or the timestep halts and the program goes on from there in a later one.
-/

namespace ReefRover

variable {R : Type}

/-- A step of a program: the machine before it, what surrounds it, and when it is made. -/
structure Moment (R : Type) where
  machine : Machine R
  around : Surroundings R
  /-- The number of events before the timestep of this step. -/
  tick : Nat

namespace Moment

/-- The instruction that is executed next, if it is not a loop condition or the end of a body. -/
def instr? (a : Moment R) : Option (Instr R) :=
  a.machine.slot?.bind a.machine.script.instr?

variable [Scalar R]

def step (a : Moment R) : Step R :=
  a.machine.step a.around

inductive Follows (a b : Moment R) : Prop where
  | within (hstep : a.step = .next b.machine) (htick : b.tick = a.tick)
  | later {m' : Machine R} {result : Except (ExecutionError R) Progress}
      (hstep : a.step = .halt m' result) (hframes : b.machine.frames = m'.frames)
      (hscript : b.machine.script = m'.script) (hgoes : m'.frames ≠ []) (htick : a.tick < b.tick)

theorem Follows.frames_eq {a b : Moment R} (h : a.Follows b) :
    b.machine.frames = a.step.machine.frames := by
  cases h with
  | within hstep =>
    rw [hstep]
    rfl
  | later hstep hframes =>
    rw [hstep]
    exact hframes

theorem Follows.script_eq {a b : Moment R} (h : a.Follows b) :
    b.machine.script = a.machine.script := by
  have hstep : a.step.machine.script = a.machine.script := a.machine.script_step a.around
  rw [← hstep]
  cases h with
  | within hstep =>
    rw [hstep]
    rfl
  | later hstep hframes hscript =>
    rw [hstep]
    exact hscript

theorem Follows.goes {a b : Moment R} (h : a.Follows b) {m' : Machine R}
    {result : Except (ExecutionError R) Progress} (hstep : a.step = .halt m' result) :
    m'.frames ≠ [] := by
  cases h with
  | within hstep' =>
    rw [hstep] at hstep'
    cases hstep'
  | later hstep' hframes hscript hgoes =>
    rw [hstep] at hstep'
    cases hstep'
    exact hgoes

theorem Follows.within_of_next {a b : Moment R} (h : a.Follows b) {m' : Machine R}
    (hstep : a.step = .next m') : b.machine = m' ∧ b.tick = a.tick := by
  cases h with
  | within hstep' htick =>
    rw [hstep] at hstep'
    cases hstep'
    exact ⟨rfl, htick⟩
  | later hstep' =>
    rw [hstep] at hstep'
    cases hstep'

end Moment

namespace Machine

def instr? (m : Machine R) : Option (Instr R) :=
  m.slot?.bind m.script.instr?

variable [Scalar R]

def trace (around : Surroundings R) : (budget : Nat) → Machine R → List (Machine R)
  | 0, _ => []
  | budget + 1, m =>
    match m.step around with
    | .next m' => m :: trace around budget m'
    | .halt .. => [m]

def stepped (m : Machine R) (around : Surroundings R) (dt : R) : List (Machine R) :=
  let m := { m with console := #[] }
  if m.cancelled || m.isDone then
    []
  else
    match m.serve around dt with
    | .ok none => trace around m.budget { m with wait := .nothing }
    | .ok (some _) | .error _ => []

def moments (m : Machine R) (tick : Nat) : Event R → List (Moment R)
  | .cancel | .animate _ => []
  | .advance around dt => (m.stepped around dt).map fun machine => { machine, around, tick }

/-- All steps of the program while events happen, the first of which has the number `tick`. -/
def history : (tick : Nat) → Machine R → List (Event R) → List (Moment R)
  | _, _, [] => []
  | tick, m, event :: events => m.moments tick event ++ history (tick + 1) (m.handle event) events

variable {m m' : Machine R} {around : Surroundings R} {dt : R} {states : List (Machine R)}
  {result : Except (ExecutionError R) Progress}

theorem Course.trace_eq (h : Course around m states m' result) (budget : Nat)
    (hbudget : states.length ≤ budget) : trace around budget m = states := by
  induction h generalizing budget with
  | halts h =>
    obtain ⟨n, rfl⟩ := Nat.exists_eq_succ_of_ne_zero (Nat.ne_zero_of_lt hbudget)
    rw [trace, h]
  | goesOn h hrest ih =>
    rw [List.length_cons] at hbudget
    obtain ⟨n, rfl⟩ := Nat.exists_eq_succ_of_ne_zero (Nat.ne_zero_of_lt hbudget)
    rw [trace, h]
    exact congrArg (List.cons _) (ih n (Nat.le_of_succ_le_succ hbudget))

theorem Runs.trace_eq {p : Program R} (h : m.Runs p) (hcourse : Course around m states m' result) :
    trace around m.budget m = states := by
  have hcount : m.script.instrCount = Program.size (m.script.ops Script.root) := by
    rw [h.instrCount_eq, h.ops_root]
  obtain ⟨states', _, _, hcourse', hlength⟩ := exists_course around h.tree h.onPath
  obtain ⟨rfl, -, -⟩ := hcourse.unique hcourse'
  exact hcourse.trace_eq _ (hlength.trans (weight_walker_lt h.tree h.onPath hcount))

theorem Runs.advances_stepped {p : Program R} (h : m.Runs p) (around : Surroundings R) (dt : R) :
    m.Advances around dt (m.stepped around dt) (m.advance around dt).1
      (m.advance around dt).2 := by
  obtain ⟨states, hadvances, -⟩ := h.exists_advances around dt
  suffices hstates : m.stepped around dt = states by
    rw [hstates]
    exact hadvances
  generalize m.advance around dt = ended at hadvances
  obtain ⟨m', result⟩ := ended
  unfold stepped
  cases hadvances with
  | cancelled hcancelled => simp [hcancelled]
  | finished hcancelled hdone =>
    have hdone' : { m with console := #[] }.isDone = true := hdone
    simp [hdone']
  | fails hcancelled hdone hserve => simp [hserve]
  | waits hcancelled hdone hserve => simp [hserve]
  | runs hcancelled hdone hserve hcourse =>
    have hdone' : { m with console := #[] }.isDone = false := hdone
    have hruns : { m with console := #[], wait := .nothing }.Runs p := ⟨h.script_eq, h.onPath⟩
    have htrace := hruns.trace_eq hcourse
    simp only [hcancelled, hdone', hserve, Bool.or_self, Bool.false_eq_true, if_false]
    exact htrace

theorem Advances.frames_of_nil (h : m.Advances around dt [] m' result) :
    m'.frames = m.frames ∧ m'.script = m.script := by
  cases h with
  | cancelled | finished | fails | waits => exact ⟨rfl, rfl⟩
  | runs hcancelled hdone hserve hcourse => cases hcourse

theorem Advances.frames_of_cons {t : Machine R} (h : m.Advances around dt (t :: states) m' result) :
    t.frames = m.frames ∧ t.script = m.script ∧ m.frames ≠ [] := by
  cases h with
  | runs hcancelled hdone hserve hcourse =>
    have hframes : m.frames ≠ [] := by
      intro hframes
      unfold isDone at hdone
      rw [hframes] at hdone
      cases hdone
    cases hcourse with
    | halts | goesOn => exact ⟨rfl, rfl, hframes⟩

theorem Course.isChain (h : Course around m states m' result) (tick : Nat) :
    (states.map fun machine => Moment.mk machine around tick).IsChain Moment.Follows ∧
      ∀ t ∈ states.getLast?, t.step around = .halt m' result := by
  induction h with
  | halts h =>
    refine ⟨.singleton _, ?_⟩
    intro t ht
    cases ht
    exact h
  | @goesOn m next m' states result h hrest ih =>
    obtain ⟨hchain, hlast⟩ := ih
    cases hrest with
    | halts hhalts =>
      exact ⟨.cons_cons (.within h rfl) hchain, hlast⟩
    | goesOn hgoes hrest => exact ⟨.cons_cons (.within h rfl) hchain, hlast⟩

theorem Advances.isChain (h : m.Advances around dt states m' result) (tick : Nat) :
    (states.map fun machine => Moment.mk machine around tick).IsChain Moment.Follows ∧
      ∀ t ∈ states.getLast?, t.step around = .halt m' result := by
  cases h with
  | cancelled | finished | fails | waits => exact ⟨.nil, nofun⟩
  | runs hcancelled hdone hserve hcourse => exact hcourse.isChain tick

theorem Runs.head_history {p : Program R} (h : m.Runs p) (tick : Nat) (events : List (Event R)) :
    ∀ b ∈ (history tick m events).head?, b.machine.frames = m.frames ∧
      b.machine.script = m.script ∧ m.frames ≠ [] ∧ tick ≤ b.tick := by
  induction events generalizing m tick with
  | nil => nofun
  | cons event events ih =>
    intro b hb
    have hnext := ih (h.handle event) (tick + 1)
    unfold history at hb
    cases event with
    | cancel | animate dt =>
      obtain ⟨hframes, hscript, hgoes, htick⟩ := hnext b hb
      exact ⟨hframes, hscript, hgoes, Nat.le_of_succ_le htick⟩
    | advance around dt =>
      have hadvances := h.advances_stepped around dt
      unfold moments at hb
      dsimp only at hb
      cases hstepped : m.stepped around dt with
      | nil =>
        rw [hstepped] at hadvances hb
        obtain ⟨hframes, hscript⟩ := hadvances.frames_of_nil
        obtain ⟨hframes', hscript', hgoes, htick⟩ := hnext b hb
        have hsame : (m.handle (.advance around dt)).frames = m.frames := hframes
        rw [hsame] at hframes' hgoes
        exact ⟨hframes', hscript'.trans hscript, hgoes, Nat.le_of_succ_le htick⟩
      | cons t states =>
        rw [hstepped] at hadvances hb
        cases hb
        obtain ⟨hframes, hscript, hgoes⟩ := hadvances.frames_of_cons
        exact ⟨hframes, hscript, hgoes, Nat.le_refl _⟩

theorem Runs.runs_of_mem_history {p : Program R} (h : m.Runs p) (tick : Nat)
    (events : List (Event R)) : ∀ a ∈ history tick m events, a.machine.Runs p := by
  induction events generalizing m tick with
  | nil => nofun
  | cons event events ih =>
    intro a ha
    unfold history at ha
    rcases List.mem_append.mp ha with ha | ha
    . cases event with
      | cancel | animate dt => cases ha
      | advance around dt =>
        obtain ⟨t, ht, rfl⟩ := List.mem_map.mp ha
        exact (h.advances_stepped around dt).runs_of_mem h t ht
    . exact ih (h.handle event) (tick + 1) a ha

theorem Runs.isChain_history {p : Program R} (h : m.Runs p) (tick : Nat)
    (events : List (Event R)) : (history tick m events).IsChain Moment.Follows := by
  induction events generalizing m tick with
  | nil => exact .nil
  | cons event events ih =>
    have hrest := ih (h.handle event) (tick + 1)
    unfold history
    cases event with
    | cancel | animate dt => exact hrest
    | advance around dt =>
      obtain ⟨hchain, hlast⟩ := (h.advances_stepped around dt).isChain tick
      refine List.IsChain.append hchain hrest ?_
      intro a ha b hb
      unfold moments at ha
      dsimp only at ha
      rw [List.getLast?_map] at ha
      obtain ⟨t, ht, rfl⟩ := Option.map_eq_some_iff.mp ha
      obtain ⟨hframes, hscript, hgoes, htick⟩ :=
        (h.handle (.advance around dt)).head_history (tick + 1) events b hb
      exact .later (hlast t ht) hframes hscript hgoes htick

end Machine

end ReefRover
