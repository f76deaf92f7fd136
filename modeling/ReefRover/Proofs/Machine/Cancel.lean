import ReefRover.Proofs.Machine.Kept

/-!
This module contains the proof that no program touches the cancellation of its own run, whatever its
timestep comes to: only the end of the run sets it.
-/

namespace ReefRover

variable {R : Type} [Scalar R]

namespace Rig

theorem cancelled_startMotion? {rig rig' : Rig R} {target : MotionTarget R} {duration : R}
    (h : rig.startMotion? target duration = some rig') : rig'.cancelled = rig.cancelled := by
  rcases startMotion?_eq_some h with rfl | ⟨motion, rfl⟩ | ⟨-, rfl⟩
  . rfl
  . rfl
  . rfl

theorem cancelled_step (rig : Rig R) (dt : R) : (rig.step dt).2.cancelled = rig.cancelled := by
  unfold step
  split
  . rfl
  . split
    . rfl
    . dsimp only
      split
      . rfl
      . rfl

theorem cancelled_kept : Kept (cancelled : Rig R → Bool) := by
  intro rig rig' around action deed _ hleads
  cases deed with
  | move | place => exact cancelled_startMotion? hleads
  | dropMotion | setRobot | pause | write =>
    cases hleads
    rfl

end Rig

theorem Machine.cancelled_advance (m : Machine R) (around : Surroundings R) (dt : R) :
    (m.advance around dt).1.cancelled = m.cancelled :=
  Rig.cancelled_kept.advance m around dt

end ReefRover
