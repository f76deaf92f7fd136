import ReefRover.Proofs.Machine.Cancel
import ReefRover.Proofs.Machine.Parked
import ReefRover.Proofs.Machine.Settle

/-!
This module contains the proof that a program that is over moves the robot no more. A program is
over once its run is cancelled, or once it has ended, which it does only with the robot at rest.
Whatever is called after that leaves the robot where it is.
-/

namespace ReefRover

variable {R : Type}

namespace Machine

inductive Over (m : Machine R) : Prop where
  | cancelled (h : m.cancelled = true)
  | ended (hdone : m.isDone = true) (hmotion : m.motion = none)

def Ended (result : Except (ExecutionError R) Progress) : Prop :=
  result = .ok .finished ∨ result = .ok .stopped

variable {m m' : Machine R} {around : Surroundings R} {result : Except (ExecutionError R) Progress}

theorem Over.silent (h : m.Over) : Over { m with console := #[] } := by
  cases h with
  | cancelled h => exact .cancelled h
  | ended hdone hmotion => exact .ended hdone hmotion

variable [Scalar R]

/-! ### After the end -/

theorem advance_of_cancelled (h : m.cancelled = true) (around : Surroundings R) (dt : R) :
    m.advance around dt = ({ m with console := #[] }, .ok .cancelled) := by
  unfold advance
  exact if_pos h

theorem advance_of_isDone (hcancelled : m.cancelled = false) (hdone : m.isDone = true)
    (around : Surroundings R) (dt : R) :
    m.advance around dt = ({ m with console := #[] }, .ok .finished) := by
  have hcancelled : ¬ m.cancelled = true := ne_true_of_eq_false hcancelled
  unfold advance
  exact (if_neg hcancelled).trans (if_pos hdone)

theorem robot_step_of_cancelled {rig : Rig R} (h : rig.cancelled = true) (dt : R) :
    (rig.step dt).2.robot = rig.robot := by
  unfold Rig.step
  split
  . rfl
  . rw [if_pos h]

theorem startMotion?_of_cancelled {rig : Rig R} (h : rig.cancelled = true)
    (target : MotionTarget R) (duration : R) :
    rig.startMotion? target duration = if rig.isMoving then none else some rig := by
  unfold Rig.startMotion?
  rw [if_pos h]

theorem cancelled_handle (h : m.cancelled = true) (event : Event R) :
    (m.handle event).cancelled = true := by
  cases event with
  | cancel => rfl
  | animate dt => exact (m.toRig.cancelled_step dt).trans h
  | advance around dt => exact (m.cancelled_advance around dt).trans h

theorem cancelled_after (h : m.cancelled = true) (events : List (Event R)) :
    (m.after events).cancelled = true := by
  induction events generalizing m with
  | nil => exact h
  | cons event events ih => exact ih (cancelled_handle h event)

namespace Over

theorem advance_eq (h : m.Over) (around : Surroundings R) (dt : R) :
    (m.advance around dt).1 = { m with console := #[] } := by
  cases hcancelled : m.cancelled with
  | true => rw [advance_of_cancelled hcancelled]
  | false =>
    cases h with
    | cancelled h =>
      rw [hcancelled] at h
      cases h
    | ended hdone hmotion => rw [advance_of_isDone hcancelled hdone]

theorem step_eq (h : m.Over) (dt : R) :
    (m.withRig (m.toRig.step dt).2).Over ∧ (m.toRig.step dt).2.robot = m.robot := by
  cases h with
  | cancelled h =>
    exact ⟨.cancelled ((m.toRig.cancelled_step dt).trans h), robot_step_of_cancelled h dt⟩
  | ended hdone hmotion =>
    rw [Rig.step_of_motion hmotion]
    exact ⟨.ended hdone hmotion, rfl⟩

theorem handle (h : m.Over) (event : Event R) :
    (m.handle event).Over ∧ (m.handle event).robot = m.robot := by
  cases event with
  | cancel => exact ⟨.cancelled rfl, rfl⟩
  | animate dt => exact h.step_eq dt
  | advance around dt =>
    change (m.advance around dt).1.Over ∧ (m.advance around dt).1.robot = m.robot
    rw [h.advance_eq]
    exact ⟨h.silent, rfl⟩

theorem robot_after (h : m.Over) (events : List (Event R)) : (m.after events).robot = m.robot := by
  induction events generalizing m with
  | nil => rfl
  | cons event events ih =>
    obtain ⟨hover, hrobot⟩ := h.handle event
    exact (ih hover).trans hrobot

end Over

/-! ### The end -/

theorem over_of_step (hactive : m.Active) (hended : Ended result)
    (hstep : m.step around = .halt m' result) : m'.Over := by
  have htakes := takes_step m around
  rw [hstep] at htakes
  cases htakes with
  | done hframes =>
    refine .ended ?_ hactive.motion_eq
    unfold isDone
    rw [hframes]
    rfl
  | stops hframes hcheck hinstr h =>
    rw [h.eq_of_stop]
    exact .ended rfl rfl
  | failsAtTest | turns | suspends | fails | breaksOut => rcases hended with h | h <;> cases h

theorem Course.over [Tuning.Valid R] {states : List (Machine R)}
    (h : Course around m states m' result) (hactive : m.Active) (hended : Ended result) :
    m'.Over := by
  induction h with
  | halts h => exact over_of_step hactive hended h
  | goesOn h hrest ih => exact ih (active_of_step hactive h) hended

theorem Parked.over [Tuning.Valid R] {dt : R} {states : List (Machine R)} (h : m.Parked)
    (hadvances : m.Advances around dt states m' result) (hended : Ended result) : m'.Over := by
  have hsilent : Parked { m with console := #[] } := ⟨h.still⟩
  cases hadvances with
  | cancelled | fails | waits => rcases hended with h | h <;> cases h
  | finished hcancelled hdone =>
    refine .ended hdone (h.still.resolve_right ?_)
    -- a program that has ended does not wait for anything
    rintro ⟨-, hnot⟩
    rw [hdone] at hnot
    cases hnot
  | runs hcancelled hdone hserve hcourse =>
    exact hcourse.over ⟨hsilent.motion_of_serve hserve, rfl⟩ hended

/--
Once the run is cancelled, at whatever moment, or the program has ended, the robot stays where it
is, however the host goes on to let time pass for the robot and for its program. A cancelled program
only ever tells that it is cancelled, and no motion can be started on its rig.
-/
theorem robot_stays_once_over (p : Program Float32) (robot : Robot Float32)
    (events later : List (Event Float32)) :
    let m := (launch (Script.ofProgram p) robot).after events
    let stopped := (m.handle .cancel).after later
    (stopped.robot = m.robot ∧
      (∀ around dt, (stopped.advance around dt).2 = .ok .cancelled) ∧
      ∀ target duration, stopped.toRig.startMotion? target duration =
        if stopped.toRig.isMoving then none else some stopped.toRig) ∧
    ∀ around dt, Ended (m.advance around dt).2 →
      ((m.advance around dt).1.after later).robot = (m.advance around dt).1.robot := by
  intro m stopped
  have hlaunched := runs_launch p robot
  have hparked : m.Parked := (parked_of_motion rfl).after hlaunched events
  have hcancelled : (m.handle .cancel).cancelled = true := rfl
  have hstopped : stopped.cancelled = true := cancelled_after hcancelled later
  refine ⟨⟨(Over.cancelled hcancelled).robot_after later, ?_, ?_⟩, ?_⟩
  . intro around dt
    rw [advance_of_cancelled hstopped]
  . exact startMotion?_of_cancelled hstopped
  . intro around dt hended
    obtain ⟨states, hadvances, -⟩ := (hlaunched.after events).exists_advances around dt
    exact (hparked.over hadvances hended).robot_after later

end Machine

end ReefRover
