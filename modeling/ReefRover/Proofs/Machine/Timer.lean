import Mathlib
import ReefRover.Proofs.Machine.History
import ReefRover.Proofs.Machine.Over
import ReefRover.Proofs.Scalar.Exact

/-!
This module contains timers: what a program waits for while timesteps take their lengths off the
time that is left. In exact arithmetic a timer is over in the first timestep that brings their
sum up to the time there was at first, up to the tolerance.
-/

namespace ReefRover

section Reals

/--
A timestep of `dt` seconds is the first one to bring the sum up to so many seconds, after timesteps
of the lengths `dts`.
-/
def Due (seconds : ℝ) (dts : List ℝ) (dt : ℝ) : Prop :=
  (∀ first, first <+: dts → first ≠ [] → first.sum < seconds) ∧ seconds ≤ dts.sum + dt

theorem due_nil {seconds dt : ℝ} : Due seconds [] dt ↔ seconds ≤ dt := by
  unfold Due
  rw [List.sum_nil, zero_add]
  constructor
  . exact And.right
  . intro h
    refine ⟨?_, h⟩
    intro first hfirst hsome
    exact absurd (List.prefix_nil.mp hfirst) hsome

theorem due_cons {seconds dt' dt : ℝ} {dts : List ℝ} :
    Due seconds (dt' :: dts) dt ↔ dt' < seconds ∧ Due (seconds - dt') dts dt := by
  unfold Due
  rw [List.sum_cons, add_assoc, ← sub_le_iff_le_add']
  constructor
  . rintro ⟨hearly, hdue⟩
    have hfirst := hearly [dt'] (by simp) (by simp)
    rw [List.sum_singleton] at hfirst
    refine ⟨hfirst, ?_, hdue⟩
    intro first hmore _
    have hlonger := hearly (dt' :: first) (List.cons_prefix_cons.mpr ⟨rfl, hmore⟩) (by simp)
    rw [List.sum_cons] at hlonger
    exact lt_sub_iff_add_lt'.mpr hlonger
  . rintro ⟨hfirst, hearly, hdue⟩
    refine ⟨?_, hdue⟩
    intro first hmore hsome
    obtain ⟨first, rfl, hrest⟩ := (List.prefix_cons_iff.mp hmore).resolve_left hsome
    rw [List.sum_cons]
    cases first with
    | nil => simpa using hfirst
    | cons dt'' first => exact lt_sub_iff_add_lt'.mp (hearly _ hrest (List.cons_ne_nil _ _))

end Reals

variable {R : Type}

def Event.dt? : Event R → Option R
  | .advance _ dt => some dt
  | .cancel | .animate _ => none

def timesteps (events : List (Event R)) : List R :=
  events.filterMap Event.dt?

namespace Machine

variable [Scalar R]

def Never (Acts : Machine R → Surroundings R → R → Prop) (m : Machine R) :
    List (Event R) → Prop
  | [] => True
  | .advance around dt :: events =>
    ¬ Acts m around dt ∧ (m.handle (.advance around dt)).Never Acts events
  | .cancel :: events => (m.handle .cancel).Never Acts events
  | .animate dt :: events => (m.handle (.animate dt)).Never Acts events

/-- After some events comes the first timestep in which something is the case. -/
def First (Acts : Machine R → Surroundings R → R → Prop) (m : Machine R)
    (events : List (Event R)) (around : Surroundings R) (dt : R) : Prop :=
  m.Never Acts events ∧ Acts (m.after events) around dt

theorem first_advance {Acts : Machine R → Surroundings R → R → Prop} {m : Machine R}
    {events : List (Event R)} {around around' : Surroundings R} {dt dt' : R} :
    m.First Acts (.advance around' dt' :: events) around dt ↔
      ¬ Acts m around' dt' ∧ (m.handle (.advance around' dt')).First Acts events around dt :=
  and_assoc

variable [Exact] {Waiting : ℝ → Machine ℝ → Prop} {Acts : Machine ℝ → Surroundings ℝ → ℝ → Prop}
  {m : Machine ℝ} {left : ℝ}

/--
What is counted down in a machine that is `Waiting`: timesteps take their lengths off what is left,
and something is the case in a timestep when at most the tolerance is left.
-/
structure Timer (Waiting : ℝ → Machine ℝ → Prop)
    (Acts : Machine ℝ → Surroundings ℝ → ℝ → Prop) : Prop where
  animates : ∀ {left m} dt, Waiting left m → Waiting left (m.handle (.animate dt))
  early : ∀ {left m} around dt, Waiting left m → m.cancelled = false → 1 / 100000 < left - dt →
    ¬ Acts m around dt ∧ Waiting (left - dt) (m.handle (.advance around dt))
  due : ∀ {left m} around dt, Waiting left m → m.cancelled = false → left - dt ≤ 1 / 100000 →
    Acts m around dt

theorem not_cancelled_of_after {event : Event ℝ} {events : List (Event ℝ)}
    (h : (m.after (event :: events)).cancelled = false) :
    m.cancelled = false ∧ ((m.handle event).after events).cancelled = false := by
  refine ⟨Bool.eq_false_of_not_eq_true ?_, h⟩
  intro hcancelled
  rw [cancelled_after hcancelled] at h
  cases h

theorem Timer.first_iff (h : Timer Waiting Acts) (hwaiting : Waiting left m)
    (events : List (Event ℝ)) (around : Surroundings ℝ) (dt : ℝ)
    (hcancelled : (m.after events).cancelled = false) :
    m.First Acts events around dt ↔ Due (left - 1 / 100000) (timesteps events) dt := by
  induction events generalizing m left with
  | nil =>
    have hnow : m.First Acts [] around dt ↔ Acts m around dt := iff_of_eq (true_and _)
    have htimes : timesteps ([] : List (Event ℝ)) = [] := rfl
    rw [hnow, htimes, due_nil, sub_le_comm]
    constructor
    . intro hacts
      by_contra hnot
      exact (h.early around dt hwaiting hcancelled (not_le.mp hnot)).1 hacts
    . exact h.due around dt hwaiting hcancelled
  | cons event events ih =>
    obtain ⟨hnow, hlater⟩ := not_cancelled_of_after hcancelled
    cases event with
    | cancel =>
      have hover : ((m.handle .cancel).after events).cancelled = true := cancelled_after rfl events
      exact absurd (hover.symm.trans hlater) Bool.false_ne_true.symm
    | animate dt' => exact ih (h.animates dt' hwaiting) hlater
    | advance around' dt' =>
      have htimes : timesteps (.advance around' dt' :: events) = dt' :: timesteps events := rfl
      rw [first_advance, htimes, due_cons]
      rcases lt_or_ge (1 / 100000) (left - dt') with hearly | hdue
      . obtain ⟨hacts, hwaiting'⟩ := h.early around' dt' hwaiting hnow hearly
        rw [ih hwaiting' hlater, sub_right_comm, lt_sub_comm]
        simp only [hacts, hearly, not_false_eq_true, true_and]
      -- it is over in this timestep already, so a later one is not the first
      . have hacts := h.due around' dt' hwaiting hnow hdue
        rw [lt_sub_comm]
        simp only [hacts, not_lt.mpr hdue, not_true_eq_false, false_and]

end Machine

end ReefRover
