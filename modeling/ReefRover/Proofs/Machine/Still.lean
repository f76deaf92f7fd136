import ReefRover.Proofs.Machine.Course
import ReefRover.Proofs.Machine.Idle

/-!
This module contains the proof that no motion is under way while a program acts. Each step leaves
the robot at rest or ends the timestep, and then the program waits for the end of the motion.
-/

namespace ReefRover

variable {R : Type} [Scalar R]

namespace Machine

/-- A machine within a timestep. -/
structure Active (m : Machine R) : Prop where
  motion_eq : m.motion = none
  wait_eq : m.wait = .nothing

/-- A machine whose timestep has ended with the program still to go on. -/
structure Suspended (m : Machine R) (around : Surroundings R) : Prop where
  isDone : m.isDone = false
  still : m.motion = none ∨ m.wait = .motion
  polls : ∀ condition left, m.wait = .poll condition left →
    m.test around condition "waitUntil" = .ok false

theorem Active.suspended {m : Machine R} {frame : Frame} {below : List Frame} {wait : Wait R}
    (h : m.Active) (around : Surroundings R)
    (hwait : ∀ condition left, wait ≠ .poll condition left) :
    Suspended { m with frames := frame :: below, wait } around where
  isDone := rfl
  still := .inl h.motion_eq
  polls := by
    intro condition left hpoll
    exact absurd hpoll (hwait condition left)

theorem betweenIterations_ne_poll (kind : FrameKind) (condition : CondId) (left : R) :
    betweenIterations kind ≠ .poll condition left := by
  unfold betweenIterations
  split <;> nofun

variable {m m' : Machine R} {around : Surroundings R} {instr : Instr R}

namespace Executes

theorem active [Tuning.Valid R] (h : m.Executes around instr .next m') (hactive : m.Active) :
    m'.Active := by
  generalize hflow : Flow.next = flow at h
  cases h with
  | acts hperform =>
    next action outcome =>
      cases outcome with
      | goesOn rig line => exact ⟨Rig.motion_of_perform hactive.motion_eq hperform, hactive.wait_eq⟩
      | moves rig => cases hflow
      | sleeps seconds => cases hflow
  | passes => exact hactive
  | opens hruns hfresh => exact ⟨hactive.motion_eq, hactive.wait_eq⟩
  | waits => cases hflow
  | breaks hbelow => exact ⟨hactive.motion_eq, hactive.wait_eq⟩
  | stops => cases hflow

end Executes

theorem suspended_of_exec (hdone : m.isDone = false) (hactive : m.Active)
    (hexec : m.exec around instr = .ok (.suspend, m')) : m'.Suspended around := by
  have hexecutes := executes_of_exec hexec
  generalize hflow : Flow.suspend = flow at hexecutes
  cases hexecutes with
  | acts hperform =>
    next action outcome =>
      cases outcome with
      | goesOn rig line => cases hflow
      | moves rig => exact ⟨hdone, .inr rfl, nofun⟩
      | sleeps seconds => exact ⟨hdone, .inl hactive.motion_eq, nofun⟩
  | waits =>
    next condition =>
      refine ⟨hdone, .inl hactive.motion_eq, ?_⟩
      -- a condition is looked at again only if it does not hold the first time
      intro condition' left hpoll
      cases hpoll
      obtain ⟨holds, htest, hresult⟩ := bind_eq_ok_iff.mp hexec
      cases holds with
      | true => cases hresult
      | false => exact htest
  | passes | opens | breaks | stops => cases hflow

/-! ### Steps -/

theorem active_of_step [Tuning.Valid R] (hactive : m.Active) (hstep : m.step around = .next m') :
    m'.Active := by
  have htakes := takes_step m around
  rw [hstep] at htakes
  cases htakes with
  | passesTest | leavesAtTest | leaves => exact ⟨hactive.motion_eq, hactive.wait_eq⟩
  | executes hframes hcheck hinstr h => exact h.active ⟨hactive.motion_eq, hactive.wait_eq⟩

theorem suspended_of_step (hactive : m.Active) (hstep : m.step around = .halt m' (.ok .pending)) :
    m'.Suspended around := by
  have htakes := takes_step m around
  rw [hstep] at htakes
  cases htakes with
  | turns => exact hactive.suspended around (betweenIterations_ne_poll _)
  | suspends hframes hcheck hinstr h =>
    rw [step_of_instr? around hframes hcheck hinstr] at hstep
    split at hstep
    . cases hstep
    . next hexec =>
      cases hstep
      apply suspended_of_exec _ _ hexec
      . rfl
      . exact ⟨hactive.motion_eq, hactive.wait_eq⟩
    . cases hstep
    . cases hstep
    . cases hstep

/-! ### Courses -/

namespace Course

theorem suspended [Tuning.Valid R] {states : List (Machine R)}
    (h : Course around m states m' (.ok .pending)) (hactive : m.Active) :
    m'.Suspended around := by
  generalize hresult : Except.ok Progress.pending = result at h
  induction h with
  | halts h =>
    subst hresult
    exact suspended_of_step hactive h
  | goesOn h hrest ih => exact ih (active_of_step hactive h) hresult

end Course

end Machine

end ReefRover
