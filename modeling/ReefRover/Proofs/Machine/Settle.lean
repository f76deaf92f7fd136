import ReefRover.Proofs.Machine.Cancel
import ReefRover.Proofs.Machine.Still
import ReefRover.Proofs.Machine.Timeless

/-!
This module contains what the passing of time leaves unchanged: where the machine stands once its
motion has ended and its wait is over. A timestep either changes nothing of that, or the program
goes on from there.
-/

namespace ReefRover

variable {R : Type}

namespace Rig

def settled (rig : Rig R) : Rig R :=
  match rig.motion with
  | none => rig
  | some motion => { rig with robot := rig.robot.place motion.target, motion := none }

theorem settled_of_motion {rig : Rig R} (h : rig.motion = none) : rig.settled = rig := by
  unfold settled
  rw [h]

theorem motion_settled (rig : Rig R) : rig.settled.motion = none := by
  unfold settled
  split
  . assumption
  . rfl

end Rig

namespace Machine

def settled (m : Machine R) : Machine R :=
  { m with toRig := m.toRig.settled, wait := .nothing, console := #[] }

theorem active_settled (m : Machine R) : m.settled.Active :=
  ⟨m.toRig.motion_settled, rfl⟩

theorem settled_of_motion {m : Machine R} (h : m.motion = none) :
    { m with console := #[], wait := .nothing } = m.settled := by
  unfold settled
  rw [Rig.settled_of_motion h]

end Machine

variable [Scalar R]

namespace Rig

theorem step_of_motion {rig : Rig R} (h : rig.motion = none) (dt : R) : (rig.step dt).2 = rig := by
  unfold step
  rw [h]

theorem settled_step {rig : Rig R} (h : rig.cancelled = false) (dt : R) :
    (rig.step dt).2.settled = rig.settled := by
  cases hmotion : rig.motion with
  | none => rw [step_of_motion hmotion]
  | some motion =>
    unfold step
    rw [hmotion]
    dsimp only
    split
    . next hcancelled =>
      rw [h] at hcancelled
      cases hcancelled
    . have hsettled : rig.settled =
          { rig with robot := rig.robot.place motion.target, motion := none } := by
        unfold settled
        rw [hmotion]
      rw [hsettled]
      split
      . rfl
      . rfl

end Rig

namespace Machine

variable {m m' : Machine R} {around : Surroundings R} {dt : R} {wait : Wait R}

namespace Suspended

theorem motion_of_poll (h : m.Suspended around) {condition : CondId} {left : R}
    (hwait : m.wait = .poll condition left) : m.motion = none := by
  apply h.still.resolve_right
  rw [hwait]
  nofun

theorem animate (h : m.Suspended around) (dt : R) :
    (m.handle (.animate dt)).Suspended around where
  isDone := h.isDone
  still := h.still.imp_left Rig.motion_step
  polls := by
    intro condition left hpoll
    have hrig : m.withRig (m.toRig.step dt).2 = m := by
      unfold withRig
      rw [Rig.step_of_motion (h.motion_of_poll hpoll)]
    unfold handle
    dsimp only
    rw [hrig]
    exact h.polls condition left hpoll

theorem serve_ne_error (h : m.Suspended around) (e : ExecutionError R) :
    m.serve around dt ≠ .error e := by
  unfold serve
  split
  . nofun
  . nofun
  . nofun
  . nofun
  . next condition left hpoll =>
    dsimp only
    rw [h.polls condition left hpoll]
    split <;> nofun

theorem motion_of_serve (h : m.Suspended around) (hserve : m.serve around dt = .ok none) :
    m.motion = none := by
  rcases h.still with hmotion | hwait
  . exact hmotion
  . unfold serve at hserve
    rw [hwait] at hserve
    cases hmotion : m.motion with
    | none => rfl
    | some motion => simp [Rig.isMoving, hmotion] at hserve

theorem withWait (h : m.Suspended around) (hserve : m.serve around dt = .ok (some wait)) :
    Suspended { m with wait } around := by
  unfold serve at hserve
  split at hserve
  . cases hserve
  . cases hserve
  . split at hserve
    . cases hserve
      exact ⟨h.isDone, .inr rfl, nofun⟩
    . cases hserve
  . next left hsleep =>
    dsimp only at hserve
    split at hserve
    . cases hserve
      have hmotion : m.motion = none := by
        apply h.still.resolve_right
        rw [hsleep]
        nofun
      exact ⟨h.isDone, .inl hmotion, nofun⟩
    . cases hserve
  . next condition left hpoll =>
    -- the condition is the same as before, whether or not it was looked at again
    have hpolls : ∀ left', Suspended { m with wait := .poll condition left' } around := by
      intro left'
      refine ⟨h.isDone, .inl (h.motion_of_poll hpoll), ?_⟩
      intro condition' left'' heq
      cases heq
      exact h.polls condition left hpoll
    dsimp only at hserve
    rw [h.polls condition left hpoll] at hserve
    split at hserve
    . cases hserve
      exact hpolls _
    . cases hserve
      exact hpolls _

theorem of_timeless {scale clock : R} (h : m.Suspended ⟨scale, clock⟩)
    (htimeless : m.script.Timeless) (clock' : R) : m.Suspended ⟨scale, clock'⟩ where
  isDone := h.isDone
  still := h.still
  polls := by
    intro condition left hpoll
    rw [← h.polls condition left hpoll]
    exact test_eq_of_timeless htimeless condition "waitUntil"

end Suspended

theorem settled_animate (h : m.cancelled = false) (dt : R) :
    (m.handle (.animate dt)).settled = m.settled := by
  unfold handle withRig settled
  dsimp only
  rw [Rig.settled_step h]

theorem Advances.passes_or_goesOn {states : List (Machine R)}
    {result : Except (ExecutionError R) Progress} (h : m.Advances around dt states m' result)
    (hcancelled : m.cancelled = false) (hm : m.Suspended around) :
    (states = [] ∧ result = .ok .pending ∧ m'.Suspended around ∧ m'.settled = m.settled) ∨
      Course around m.settled states m' result := by
  have hsilent : Suspended { m with console := #[] } around := ⟨hm.isDone, hm.still, hm.polls⟩
  cases h with
  | cancelled h =>
    rw [hcancelled] at h
    cases h
  | finished _ h =>
    rw [hm.isDone] at h
    cases h
  | fails _ _ h => exact absurd h (hsilent.serve_ne_error _)
  | waits _ _ h => exact .inl ⟨rfl, rfl, hsilent.withWait h, rfl⟩
  | runs _ _ h hcourse =>
    rw [settled_of_motion (hsilent.motion_of_serve h)] at hcourse
    exact .inr hcourse

end Machine

end ReefRover
