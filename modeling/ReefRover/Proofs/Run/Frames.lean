import ReefRover.Proofs.Run.Command
import ReefRover.Proofs.Run.Hosted
import ReefRover.Proofs.Scalar.Undefined

/-!
This module contains the proof that the pace of the host's frames does not matter. A timestep
neither looks at the host time that is left nor changes it, so however frames come in, the
controller is the one that as many timesteps make, and only the host time left may differ.
-/

namespace ReefRover

variable {R : Type}

namespace Controller

def withTime (c : Controller R) (accumulator : R) : Controller R :=
  { c with accumulator }

@[simp]
theorem withTime_withTime (c : Controller R) (time time' : R) :
    (c.withTime time).withTime time' = c.withTime time' :=
  rfl

theorem withTime_eq_hosted (c : Controller R) (time : R) :
    c.withTime time = c.hosted (fun _ => time) #[] #[] := by
  unfold hosted
  rw [Array.empty_append, Array.empty_append]
  rfl

theorem finish_withTime (c : Controller R) (time : R) (outcome : RunOutcome R) :
    (c.withTime time).finish outcome = (c.finish outcome).withTime time := by
  rw [withTime_eq_hosted, finish_hosted, withTime_eq_hosted]

theorem accumulator_finish (c : Controller R) (outcome : RunOutcome R) :
    (c.finish outcome).accumulator = c.accumulator := by
  have hfinish := congrArg accumulator (c.finish_withTime c.accumulator outcome)
  exact hfinish

variable [Scalar R]

/-! ### Timesteps -/

theorem tick_withTime (c : Controller R) (time dt : R) :
    (c.withTime time).tick dt = (c.tick dt).withTime time := by
  rw [withTime_eq_hosted, tick_hosted, withTime_eq_hosted]

theorem accumulator_tick (c : Controller R) (dt : R) : (c.tick dt).accumulator = c.accumulator := by
  have htick := congrArg accumulator (c.tick_withTime c.accumulator dt)
  exact htick

def ticked (c : Controller R) : Nat → Controller R
  | 0 => c
  | count + 1 => (c.tick Tuning.timestep).ticked count

theorem ticked_withTime (c : Controller R) (time : R) (count : Nat) :
    (c.withTime time).ticked count = (c.ticked count).withTime time := by
  induction count generalizing c with
  | zero => rfl
  | succ count ih =>
    unfold ticked
    rw [tick_withTime, ih]

theorem ticked_add (c : Controller R) (m n : Nat) : c.ticked (m + n) = (c.ticked m).ticked n := by
  induction m generalizing c with
  | zero => rw [Nat.zero_add]; rfl
  | succ m ih =>
    rw [Nat.succ_add]
    exact ih _

/-- One controller is the other after so many timesteps, but for the host time left. -/
def Passes (c : Controller R) (count : Nat) (c' : Controller R) : Prop :=
  c' = (c.ticked count).withTime c'.accumulator

namespace Passes

variable {c c' c'' : Controller R} {m n : Nat}

theorem hosts (h : c.Passes m c') (time : R) : c.Passes m (c'.withTime time) := by
  have htime := congrArg (withTime · time) h
  exact htime

theorem trans (h : c.Passes m c') (h' : c'.Passes n c'') : c.Passes (m + n) c'' := by
  unfold Passes at h h' ⊢
  rw [h, ticked_withTime, withTime_withTime, ← ticked_add] at h'
  exact h'

end Passes

theorem passes_withTime (c : Controller R) (time : R) : c.Passes 0 (c.withTime time) :=
  rfl

theorem passes_tick (c : Controller R) : c.Passes 1 (c.tick Tuning.timestep) :=
  rfl

/-! ### Frames -/

theorem passes_substeps (most : Nat) (c : Controller R) :
    c.Passes (substeps most c).1 (substeps most c).2 := by
  induction most generalizing c with
  | zero => exact c.passes_withTime c.accumulator
  | succ most ih =>
    unfold substeps
    split
    . dsimp only
      rw [Nat.add_comm]
      exact (c.passes_tick.hosts _).trans (ih _)
    . exact c.passes_withTime c.accumulator

def timeLeft (time : R) : Nat → R
  | 0 => time
  | count + 1 => timeLeft (time - Tuning.timestep) count

/-- Some host time is enough for so many timesteps but not for one more, unless no more may run. -/
structure Covers (most : Nat) (time : R) (count : Nat) : Prop where
  count_le : count ≤ most
  le_left : ∀ k < count, Tuning.timestep ≤ timeLeft time k
  spent : count < most → ¬ Tuning.timestep ≤ timeLeft time count

theorem covers_zero {most : Nat} {time : R} (h : 0 < most → ¬ Tuning.timestep ≤ time) :
    Covers most time 0 where
  count_le := Nat.zero_le most
  le_left := by
    intro k hk
    exact absurd hk (Nat.not_lt_zero k)
  spent := h

theorem Covers.succ {most : Nat} {time : R} {count : Nat} (hdue : Tuning.timestep ≤ time)
    (h : Covers most (time - Tuning.timestep) count) : Covers (most + 1) time (count + 1) where
  count_le := Nat.succ_le_succ h.count_le
  le_left := by
    intro k hk
    cases k with
    | zero => exact hdue
    | succ k => exact h.le_left k (Nat.lt_of_succ_lt_succ hk)
  spent := by
    intro hfew
    exact h.spent (Nat.lt_of_succ_lt_succ hfew)

theorem covers_substeps (most : Nat) (c : Controller R) :
    Covers most c.accumulator (substeps most c).1 ∧
      (substeps most c).2.accumulator = timeLeft c.accumulator (substeps most c).1 := by
  induction most generalizing c with
  | zero => exact ⟨covers_zero fun h => absurd h (Nat.lt_irrefl 0), rfl⟩
  | succ most ih =>
    unfold substeps
    split
    . next hdue =>
      let rest := (c.tick Tuning.timestep).withTime (c.accumulator - Tuning.timestep)
      obtain ⟨hrest, hleft⟩ := ih rest
      dsimp only
      rw [accumulator_tick]
      exact ⟨hrest.succ hdue, hleft⟩
    . next hnot => exact ⟨covers_zero fun _ => hnot, rfl⟩

theorem substeps_le (most : Nat) (c : Controller R) : (substeps most c).1 ≤ most :=
  (covers_substeps most c).1.count_le

theorem not_le_of_substeps_lt {most : Nat} {c : Controller R} (h : (substeps most c).1 < most) :
    ¬ Tuning.timestep ≤ (substeps most c).2.accumulator := by
  obtain ⟨hcovers, hleft⟩ := covers_substeps most c
  rw [hleft]
  exact hcovers.spent h

theorem advance_of_pos {frame : R} (h : Scalar.zero < frame) (c : Controller R) :
    let ran := substeps Tuning.maxSubsteps
      (c.withTime (c.accumulator + Scalar.lesser frame Tuning.maxFrame))
    c.advance frame =
      if ran.1 = Tuning.maxSubsteps then
        (ran.1, ran.2.withTime (Scalar.lesser ran.2.accumulator Tuning.timestep))
      else
        ran := by
  unfold advance
  rw [if_pos h]
  rfl

theorem advance_of_not_pos {frame : R} (h : ¬ Scalar.zero < frame) (c : Controller R) :
    c.advance frame = (0, c) := by
  unfold advance
  rw [if_neg h]

theorem covers_advance {frame : R} (h : Scalar.zero < frame) (c : Controller R) :
    let time := c.accumulator + Scalar.lesser frame Tuning.maxFrame
    let count := (c.advance frame).1
    Covers Tuning.maxSubsteps time count ∧
      (c.advance frame).2.accumulator =
        if count = Tuning.maxSubsteps then Scalar.lesser (timeLeft time count) Tuning.timestep
        else timeLeft time count := by
  intro time count
  have hadvance := advance_of_pos h c
  have hcount : count = (substeps Tuning.maxSubsteps (c.withTime time)).1 := by
    change (c.advance frame).1 = _
    rw [hadvance]
    split
    . rfl
    . rfl
  obtain ⟨hcovers, hleft⟩ := covers_substeps Tuning.maxSubsteps (c.withTime time)
  rw [hcount]
  refine ⟨hcovers, ?_⟩
  change (substeps Tuning.maxSubsteps (c.withTime time)).2.accumulator = timeLeft time _ at hleft
  rw [hadvance, ← hleft]
  split
  . rfl
  . rfl

theorem passes_advance (c : Controller R) (frame : R) :
    c.Passes (c.advance frame).1 (c.advance frame).2 ∧
      (c.advance frame).1 ≤ Tuning.maxSubsteps := by
  by_cases hframe : Scalar.zero < frame
  . have hadded := c.passes_withTime (c.accumulator + Scalar.lesser frame Tuning.maxFrame)
    have hran := hadded.trans (passes_substeps Tuning.maxSubsteps _)
    rw [Nat.zero_add] at hran
    have hmost := substeps_le Tuning.maxSubsteps
      (c.withTime (c.accumulator + Scalar.lesser frame Tuning.maxFrame))
    rw [advance_of_pos hframe]
    split
    -- cutting the time that is left does not count as a timestep
    . exact ⟨hran.hosts _, hmost⟩
    . exact ⟨hran, hmost⟩
  . rw [advance_of_not_pos hframe]
    exact ⟨c.passes_withTime c.accumulator, Nat.zero_le _⟩

/-- Takes in frames one after the other. Tells how many timesteps each of them made due. -/
def driven (c : Controller R) : List R → List Nat × Controller R
  | [] => ([], c)
  | frame :: frames =>
    let (count, c) := c.advance frame
    let (counts, c) := c.driven frames
    (count :: counts, c)

theorem passes_driven (c : Controller R) (frames : List R) :
    c.Passes (c.driven frames).1.sum (c.driven frames).2 ∧
      ∀ count ∈ (c.driven frames).1, count ≤ Tuning.maxSubsteps := by
  induction frames generalizing c with
  | nil => exact ⟨c.passes_withTime c.accumulator, nofun⟩
  | cons frame frames ih =>
    obtain ⟨hframe, hmost⟩ := c.passes_advance frame
    obtain ⟨hframes, hmosts⟩ := ih (c.advance frame).2
    exact ⟨hframe.trans hframes, List.forall_mem_cons.mpr ⟨hmost, hmosts⟩⟩

/-! ### The host time that is left -/

/-- The host time left is some amount of time, so it is comparable to a timestep. -/
def HasTime (c : Controller R) : Prop :=
  Scalar.isUndefined c.accumulator = false

namespace HasTime

variable {c : Controller Float32}

theorem isUndefined_timestep : Scalar.isUndefined (Tuning.timestep : Float32) = false := by
  decide

theorem isUndefined_zero : Scalar.isUndefined (Scalar.zero : Float32) = false := by
  decide

theorem add (h : c.HasTime) {frame : Float32} (hframe : Scalar.zero < frame) :
    (c.withTime (c.accumulator + Scalar.lesser frame Tuning.maxFrame)).HasTime :=
  Single.isUndefined_add h (Single.isFinite_lesser hframe)

theorem cap (h : c.HasTime) :
    (c.withTime (Scalar.lesser c.accumulator Tuning.timestep)).HasTime :=
  Single.isUndefined_lesser h isUndefined_timestep

theorem tick (h : c.HasTime) (dt : Float32) : (c.tick dt).HasTime := by
  unfold HasTime
  rw [accumulator_tick]
  exact h

theorem substeps (h : c.HasTime) (most : Nat) : (substeps most c).2.HasTime := by
  induction most generalizing c with
  | zero => exact h
  | succ most ih =>
    unfold Controller.substeps
    split
    . apply ih
      exact Single.isUndefined_sub (h.tick _) (by decide)
    . exact h

theorem advance (h : c.HasTime) (frame : Float32) : (c.advance frame).2.HasTime := by
  by_cases hframe : Scalar.zero < frame
  . have hran := (h.add hframe).substeps Tuning.maxSubsteps
    rw [advance_of_pos hframe]
    split
    . exact hran.cap
    . exact hran
  . rw [advance_of_not_pos hframe]
    exact h

theorem driven (h : c.HasTime) (frames : List Float32) : (c.driven frames).2.HasTime := by
  induction frames generalizing c with
  | nil => exact h
  | cons frame frames ih => exact ih (h.advance frame)

theorem advance_le (h : c.HasTime) {frame : Float32} (hframe : Scalar.zero < frame) :
    (c.advance frame).2.accumulator ≤ Tuning.timestep ∧
      ((c.advance frame).1 < Tuning.maxSubsteps →
        (c.advance frame).2.accumulator < Tuning.timestep) := by
  have hran := (h.add hframe).substeps Tuning.maxSubsteps
  have hmost := substeps_le Tuning.maxSubsteps
    (c.withTime (c.accumulator + Scalar.lesser frame Tuning.maxFrame))
  rw [advance_of_pos hframe]
  -- either all timesteps ran and the rest is cut, or there was no time for one more
  split
  . next hall =>
    refine ⟨Single.lesser_le hran isUndefined_timestep, ?_⟩
    intro hfew
    exact absurd hall (Nat.ne_of_lt hfew)
  . next hnot =>
    have hfew := Nat.lt_of_le_of_ne hmost hnot
    have hlt := Single.lt_of_not_le isUndefined_timestep hran (not_le_of_substeps_lt hfew)
    exact ⟨Single.le_of_lt hlt, fun _ => hlt⟩

theorem finish (h : c.HasTime) (outcome : RunOutcome Float32) : (c.finish outcome).HasTime := by
  unfold HasTime
  rw [accumulator_finish]
  exact h

theorem start (h : c.HasTime) (program : Program Float32) : (c.start program).2.HasTime := by
  unfold Controller.start
  split
  . exact h
  . exact isUndefined_zero

theorem startDecoded (h : c.HasTime) (decoded : Except Json.DecodeError (Program Float32)) :
    (c.startDecoded decoded).2.HasTime := by
  rcases c.startDecoded_cases decoded with ⟨program, heq⟩ | ⟨outcome, -, heq⟩
  . rw [heq]
    exact h.start program
  . rw [heq]
    exact (h.start []).finish outcome

theorem setLayout (h : c.HasTime) (layout : Layout) : (c.setLayout layout).2.HasTime := by
  unfold Controller.setLayout
  split
  . exact h
  . exact isUndefined_zero

theorem obey (h : c.HasTime) (command : Command Float32) : (c.obey command).HasTime := by
  cases command with
  | start program => exact h.start program
  | startDecoded decoded => exact h.startDecoded decoded
  | stop => exact h.finish .stopped
  | reset | clear => exact isUndefined_zero
  | setLayout layout => exact h.setLayout layout
  | listen | drainEvents => exact h
  | tick dt => exact h.tick dt
  | advance frame => exact h.advance frame

theorem after (h : c.HasTime) (commands : List (Command Float32)) : (c.after commands).HasTime :=
  after_induction (fun _ hd command _ => hd.obey command) h

end HasTime

theorem hasTime_new (settings : Settings Float32) (session : UInt64) :
    (new settings session).HasTime :=
  HasTime.isUndefined_zero

/--
In whatever frames host time comes in, the controller is the one that as many timesteps make, but
for the host time that is left. A frame runs the timesteps that are due in that time and in its own,
and never more than its share of them or with the time for one of them left over. So hosts that have
run as many timesteps have the same controller.
-/
theorem ticked_of_frames (settings : Settings Float32) (session : UInt64)
    (commands : List (Command Float32)) (frames frames' : List Float32) (frame : Float32) :
    let c := (new settings session).after commands
    let counts := (c.driven frames).1
    let d := (c.driven frames).2
    d = (c.ticked counts.sum).withTime d.accumulator ∧
      (∀ count ∈ counts, count ≤ Tuning.maxSubsteps) ∧
      (Scalar.zero < frame →
        (d.advance frame).2.accumulator ≤ Tuning.timestep ∧
          ((d.advance frame).1 < Tuning.maxSubsteps →
            (d.advance frame).2.accumulator < Tuning.timestep)) ∧
      ((c.driven frames').1.sum = counts.sum →
        (c.driven frames').2.withTime d.accumulator = d) ∧
      (Scalar.zero < frame →
        let time := d.accumulator + Scalar.lesser frame Tuning.maxFrame
        let count := (d.advance frame).1
        Covers Tuning.maxSubsteps time count ∧
          (d.advance frame).2.accumulator =
            if count = Tuning.maxSubsteps then Scalar.lesser (timeLeft time count) Tuning.timestep
            else timeLeft time count) ∧
      (¬ Scalar.zero < frame → d.advance frame = (0, d)) := by
  intro c counts d
  have htime : c.HasTime := (hasTime_new settings session).after commands
  obtain ⟨hpasses, hmost⟩ := c.passes_driven frames
  obtain ⟨hpasses', -⟩ := c.passes_driven frames'
  refine ⟨hpasses, hmost, (htime.driven frames).advance_le, ?_, ?_, ?_⟩
  . intro hcounts
    have hsame : (c.driven frames').2.withTime d.accumulator =
        (c.ticked (c.driven frames').1.sum).withTime d.accumulator := hpasses'.hosts d.accumulator
    rw [hsame, hcounts]
    exact hpasses.symm
  . intro hframe
    exact covers_advance hframe d
  . intro hframe
    exact advance_of_not_pos hframe d

theorem ticked_of_uneven_frames :
    let commands : List (Command Float32) :=
      [.start [.action (.wait none)], .advance (1 / 100)]
    let frames : List Float32 := [1 / 60, 0 / 0, -1, 1 / 0]
    let frames' : List Float32 := [1 / 25, 1 / 24, 0]
    let c := (new (Settings.defaults : Settings Float32) 7).after commands
    let d := (c.driven frames).2
    (c.driven frames').1.sum = (c.driven frames).1.sum ∧ (Scalar.zero : Float32) < 1 / 30 ∧
      (d.advance (1 / 30)).1 < Tuning.maxSubsteps ∧
      Covers Tuning.maxSubsteps (d.accumulator + Scalar.lesser (1 / 30) Tuning.maxFrame)
        (d.advance (1 / 30)).1 ∧
      (d.advance (1 / 30)).2.accumulator < Tuning.timestep ∧
      (c.driven frames').2.withTime d.accumulator = d := by
  intro commands frames frames' c d
  have hstate : (c.driven frames').1.sum = (c.driven frames).1.sum ∧
      (Scalar.zero : Float32) < 1 / 30 ∧ (d.advance (1 / 30)).1 < Tuning.maxSubsteps := by
    decide +kernel
  obtain ⟨hcounts, hframe, hfew⟩ := hstate
  obtain ⟨-, -, hleft, hsame, hcovers, -⟩ :=
    ticked_of_frames Settings.defaults 7 commands frames frames' (1 / 30)
  exact ⟨hcounts, hframe, hfew, (hcovers hframe).1, (hleft hframe).2 hfew, hsame hcounts⟩

end Controller

end ReefRover
