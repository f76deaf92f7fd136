import Mathlib
import ReefRover.Proofs.Run.Frames
import ReefRover.Proofs.Run.Freeze
import ReefRover.Proofs.Scalar.Durations

/-!
This module contains the proof that no host time gets lost, in exact arithmetic. What a frame adds
to the host time that is left it spends on timesteps, and as long as frames are no longer than the
timesteps that one of them may run, nothing is cut off. So the number of timesteps is the number
that fit into the frames.
-/

namespace ReefRover

variable {R : Type}

def Command.frame? : Command R → Option R
  | .advance frame => some frame
  | .start _ | .startDecoded _ | .stop | .reset | .clear | .setLayout _ | .listen | .tick _
  | .drainEvents => none

namespace Controller

def due [Scalar R] (c : Controller R) : List (Command R) → Nat
  | [] => 0
  | command :: commands =>
    (command.frame?.elim 0 fun frame => (c.advance frame).1) + (c.obey command).due commands

variable [Exact] {c c' c'' : Controller ℝ} {m n : Nat} {time time' : ℝ}

/-- Timesteps have spent exactly the time that came in, but for the time left. -/
structure Spends (c : Controller ℝ) (time : ℝ) (count : Nat) (c' : Controller ℝ) : Prop where
  left_eq : count * (1 / 120) + c'.accumulator = c.accumulator + time
  nonneg : 0 ≤ c'.accumulator
  lt : c'.accumulator < 1 / 120

/-- Timesteps have not spent more than the time that came in, and a timestep at most is left. -/
structure Affords (c : Controller ℝ) (time : ℝ) (count : Nat) (c' : Controller ℝ) : Prop where
  left_le : count * (1 / 120) + c'.accumulator ≤ c.accumulator + time
  nonneg : 0 ≤ c'.accumulator
  le : c'.accumulator ≤ 1 / 120

theorem Spends.trans (h : c.Spends time m c') (h' : c'.Spends time' n c'') :
    c.Spends (time + time') (m + n) c'' where
  left_eq := by
    rw [Nat.cast_add, add_mul, add_assoc, h'.left_eq, ← add_assoc, h.left_eq, add_assoc]
  nonneg := h'.nonneg
  lt := h'.lt

theorem Affords.trans (h : c.Affords time m c') (h' : c'.Affords time' n c'') :
    c.Affords (time + time') (m + n) c'' where
  left_le := by
    have hfirst := h.left_le
    have hsecond := h'.left_le
    rw [Nat.cast_add, add_mul]
    linarith
  nonneg := h'.nonneg
  le := h'.le

/-! ### Frames -/

theorem substeps_spend (most : Nat) (hleft : 0 ≤ c.accumulator) :
    (substeps most c).1 * (1 / 120) + (substeps most c).2.accumulator = c.accumulator ∧
      0 ≤ (substeps most c).2.accumulator := by
  induction most generalizing c with
  | zero =>
    unfold substeps
    rw [Nat.cast_zero, zero_mul, zero_add]
    exact ⟨rfl, hleft⟩
  | succ most ih =>
    unfold substeps
    split
    . next hdue =>
      have hspent : ((c.tick Tuning.timestep).withTime
          ((c.tick Tuning.timestep).accumulator - Tuning.timestep)).accumulator =
          c.accumulator - 1 / 120 := by
        rw [← Tuning.timestep_eq, ← c.accumulator_tick Tuning.timestep]
        rfl
      rw [Tuning.timestep_eq] at hdue
      obtain ⟨hrest, hnonneg⟩ := ih (hspent.symm ▸ sub_nonneg.mpr hdue)
      rw [hspent] at hrest
      refine ⟨?_, hnonneg⟩
      rw [Nat.cast_succ, add_mul, one_mul, add_right_comm]
      exact (congrArg (· + 1 / 120) hrest).trans (sub_add_cancel _ _)
    . rw [Nat.cast_zero, zero_mul, zero_add]
      exact ⟨rfl, hleft⟩

theorem advance_takes (hnonneg : 0 ≤ c.accumulator) {frame : ℝ} (hpos : 0 < frame) :
    ∃ rest, (c.advance frame).1 * (1 / 120) + rest = c.accumulator + min frame (1 / 10) ∧
      0 ≤ rest ∧ ((c.advance frame).1 < Tuning.maxSubsteps → rest < 1 / 120) ∧
      (c.advance frame).2.accumulator = min rest (1 / 120) := by
  have hframe : (Scalar.zero : ℝ) < frame := Exact.zero_eq.symm ▸ hpos
  have hsome : 0 ≤ min frame (1 / 10) := le_min hpos.le (by norm_num)
  have htaken : Scalar.lesser frame Tuning.maxFrame = min frame (1 / 10) := by
    rw [Exact.lesser_eq_min, Tuning.maxFrame_eq]
  rw [advance_of_pos hframe, htaken]
  set added := c.withTime (c.accumulator + min frame (1 / 10))
  obtain ⟨hspent, hrest⟩ := substeps_spend (c := added) Tuning.maxSubsteps
    (add_nonneg hnonneg hsome)
  have hmost := substeps_le Tuning.maxSubsteps added
  have hleft (hfew : (substeps Tuning.maxSubsteps added).1 < Tuning.maxSubsteps) :
      (substeps Tuning.maxSubsteps added).2.accumulator < 1 / 120 := by
    rw [← Tuning.timestep_eq]
    exact not_le.mp (not_le_of_substeps_lt hfew)
  refine ⟨(substeps Tuning.maxSubsteps added).2.accumulator, ?_⟩
  split
  . refine ⟨hspent, hrest, hleft, ?_⟩
    rw [← Tuning.timestep_eq, ← Exact.lesser_eq_min]
    rfl
  . next hnot =>
    exact ⟨hspent, hrest, hleft, (min_eq_left (hleft (Nat.lt_of_le_of_ne hmost hnot)).le).symm⟩

theorem advance_affords (hnonneg : 0 ≤ c.accumulator) {frame : ℝ} (hpos : 0 < frame) :
    c.Affords frame (c.advance frame).1 (c.advance frame).2 := by
  obtain ⟨rest, hspent, hrest, -, hleft⟩ := advance_takes hnonneg hpos
  have hless : min frame (1 / 10) ≤ frame := min_le_left _ _
  have hcut : min rest (1 / 120) ≤ rest := min_le_left _ _
  refine ⟨?_, ?_, ?_⟩
  . rw [hleft]
    linarith
  . rw [hleft]
    exact le_min hrest (by norm_num)
  . rw [hleft]
    exact min_le_right _ _

theorem advance_spends (hnonneg : 0 ≤ c.accumulator) (hlt : c.accumulator < 1 / 120) {frame : ℝ}
    (hpos : 0 < frame) (hmost : frame ≤ Tuning.maxSubsteps * Tuning.timestep) :
    c.Spends frame (c.advance frame).1 (c.advance frame).2 := by
  have height : ((Tuning.maxSubsteps : Nat) : ℝ) = 8 := rfl
  rw [height, Tuning.timestep_eq] at hmost
  obtain ⟨rest, hspent, hrest, hfew, hleft⟩ := advance_takes hnonneg hpos
  rw [min_eq_left (hmost.trans (by norm_num))] at hspent
  have hlast : rest < 1 / 120 := by
    rcases Nat.lt_or_eq_of_le (c.passes_advance frame).2 with hlt' | hall
    . exact hfew hlt'
    -- the frame and what was left are together shorter than one timestep more
    . rw [hall, height] at hspent
      linarith
  rw [min_eq_left hlast.le] at hleft
  exact ⟨hleft ▸ hspent, hleft ▸ hrest, hleft ▸ hlast⟩

/-! ### Commands -/

theorem affords_nothing (hnonneg : 0 ≤ c.accumulator) (hle : c.accumulator ≤ 1 / 120)
    (hsame : c'.accumulator = c.accumulator) : c.Affords 0 0 c' where
  left_le := by rw [Nat.cast_zero, zero_mul, zero_add, add_zero, hsame]
  nonneg := hsame ▸ hnonneg
  le := hsame ▸ hle

theorem spends_nothing (hnonneg : 0 ≤ c.accumulator) (hlt : c.accumulator < 1 / 120)
    (hsame : c'.accumulator = c.accumulator) : c.Spends 0 0 c' where
  left_eq := by rw [Nat.cast_zero, zero_mul, zero_add, add_zero, hsame]
  nonneg := hsame ▸ hnonneg
  lt := hsame ▸ hlt

theorem accumulator_obey {command : Command ℝ} (hpassive : command.isPassive = true)
    (hframe : command.frame? = none) : (c.obey command).accumulator = c.accumulator := by
  cases command with
  | start | startDecoded | reset | clear | setLayout => cases hpassive
  | advance => cases hframe
  | stop => exact c.accumulator_finish .stopped
  | tick dt => exact c.accumulator_tick dt
  | listen | drainEvents => rfl

theorem obey_of_frame {command : Command ℝ} {frame : ℝ} (h : command.frame? = some frame) :
    c.obey command = (c.advance frame).2 := by
  cases command with
  | advance => rw [← Option.some.inj h]; rfl
  | start | startDecoded | stop | reset | clear | setLayout | listen | tick | drainEvents => cases h

theorem affords_after {commands : List (Command ℝ)} (hnonneg : 0 ≤ c.accumulator)
    (hle : c.accumulator ≤ 1 / 120) (hpassive : ∀ command ∈ commands, command.isPassive = true)
    (hpos : ∀ frame ∈ commands.filterMap Command.frame?, 0 < frame) :
    c.Affords (commands.filterMap Command.frame?).sum (c.due commands) (c.after commands) ∧
      (c.accumulator < 1 / 120 → (∀ frame ∈ commands.filterMap Command.frame?,
        frame ≤ Tuning.maxSubsteps * Tuning.timestep) →
        c.Spends (commands.filterMap Command.frame?).sum (c.due commands) (c.after commands)) := by
  induction commands generalizing c with
  | nil => exact ⟨affords_nothing hnonneg hle rfl, fun hlt _ => spends_nothing hnonneg hlt rfl⟩
  | cons command commands ih =>
    obtain ⟨hcommand, hpassive⟩ := List.forall_mem_cons.mp hpassive
    cases hframe : command.frame? with
    | none =>
      have hsame := c.accumulator_obey hcommand hframe
      rw [List.filterMap_cons_none hframe] at hpos ⊢
      obtain ⟨hrest, hrest'⟩ := ih (hsame ▸ hnonneg) (hsame ▸ hle) hpassive hpos
      unfold due
      rw [hframe]
      refine ⟨?_, ?_⟩
      . rw [← zero_add (List.sum _)]
        exact (affords_nothing hnonneg hle hsame).trans hrest
      . intro hlt hshort
        rw [← zero_add (List.sum _)]
        exact (spends_nothing hnonneg hlt hsame).trans (hrest' (hsame ▸ hlt) hshort)
    | some frame =>
      rw [List.filterMap_cons_some hframe, List.forall_mem_cons] at hpos
      have hfirst := advance_affords hnonneg hpos.1
      rw [← obey_of_frame hframe] at hfirst
      obtain ⟨hrest, hrest'⟩ := ih hfirst.nonneg hfirst.le hpassive hpos.2
      unfold due
      rw [hframe, List.filterMap_cons_some hframe, List.sum_cons]
      refine ⟨hfirst.trans hrest, ?_⟩
      intro hlt hshort
      obtain ⟨hmost, hshort⟩ := List.forall_mem_cons.mp hshort
      have hwhole := advance_spends hnonneg hlt hpos.1 hmost
      rw [← obey_of_frame hframe] at hwhole
      exact hwhole.trans (hrest' hwhole.lt hshort)

/--
With no host time left at first, frames make exactly as many timesteps due as fit into them, if none
of them is longer than the timesteps that it may run. Otherwise they make no more than that due, and
the time that is left over is at most that of one timestep.
-/
theorem frames_lose_no_time (c : Controller ℝ) (commands : List (Command ℝ))
    (hempty : c.accumulator = 0) (hpassive : ∀ command ∈ commands, command.isPassive = true)
    (hpos : ∀ frame ∈ commands.filterMap Command.frame?, 0 < frame) :
    let frames := commands.filterMap Command.frame?
    let fitting := ⌊frames.sum / Tuning.timestep⌋₊
    let c' := c.after commands
    ((∀ frame ∈ frames, frame ≤ Tuning.maxSubsteps * Tuning.timestep) →
        c.due commands = fitting) ∧
      c.due commands ≤ fitting ∧ 0 ≤ c'.accumulator ∧ c'.accumulator ≤ Tuning.timestep ∧
      ∀ frame, c'.Passes (c'.advance frame).1 (c'.advance frame).2 := by
  intro frames fitting c'
  have hnone : 0 ≤ c.accumulator ∧ c.accumulator < 1 / 120 := by
    rw [hempty]
    norm_num
  obtain ⟨hafford, hspend⟩ := affords_after hnone.1 hnone.2.le hpassive hpos
  have hfit : (c.due commands : ℝ) ≤ frames.sum / Tuning.timestep := by
    have hspent := hafford.left_le
    have hleft := hafford.nonneg
    rw [hempty, zero_add] at hspent
    rw [Tuning.timestep_eq, le_div_iff₀ (by norm_num)]
    linarith
  refine ⟨?_, Nat.le_floor hfit, hafford.nonneg, Tuning.timestep_eq.symm ▸ hafford.le, ?_⟩
  . intro hshort
    have hspends := hspend hnone.2 hshort
    have hspent := hspends.left_eq
    have hleft := hspends.lt
    rw [hempty, zero_add] at hspent
    symm
    rw [Nat.floor_eq_iff (hfit.trans' (Nat.cast_nonneg _))]
    refine ⟨hfit, ?_⟩
    rw [Tuning.timestep_eq, div_lt_iff₀ (by norm_num)]
    linarith
  . intro frame
    exact (c'.passes_advance frame).1

end Controller

theorem Controller.nine_timesteps_in_two_frames :
    let _ : Exact :=
      { facing := fun degrees =>
          (Real.sin (degrees * Real.pi / 180), -Real.cos (degrees * Real.pi / 180))
        isFinite := fun _ => true }
    let c := ((new Settings.defaults 7 : Controller ℝ).start [.action (.wait none)]).2
    let commands : List (Command ℝ) :=
      [.advance (1 / 100), .tick (1 / 60), .advance (1 / 15), .stop]
    c.due commands = 9 ∧ (c.after commands).accumulator ≤ Tuning.timestep := by
  intro trig c commands
  have hempty : c.accumulator = 0 := Exact.zero_eq
  have hframes : commands.filterMap Command.frame? = [1 / 100, 1 / 15] := rfl
  have hpassive : ∀ command ∈ commands, command.isPassive = true := by
    simp [commands, Command.isPassive]
  have hpos : ∀ frame ∈ commands.filterMap Command.frame?, 0 < frame := by
    rw [hframes]
    norm_num
  have hshort : ∀ frame ∈ commands.filterMap Command.frame?,
      frame ≤ Tuning.maxSubsteps * Tuning.timestep := by
    have height : ((Tuning.maxSubsteps : Nat) : ℝ) = 8 := rfl
    rw [hframes, height, Tuning.timestep_eq]
    norm_num
  have hfitting : ⌊(commands.filterMap Command.frame?).sum / Tuning.timestep⌋₊ = 9 := by
    rw [hframes, Tuning.timestep_eq, Nat.floor_eq_iff (by norm_num)]
    norm_num
  obtain ⟨hdue, -, -, hleft, -⟩ := frames_lose_no_time c commands hempty hpassive hpos
  exact ⟨(hdue hshort).trans hfitting, hleft⟩

end ReefRover
