import ReefRover.Proofs.Machine.Deed
import ReefRover.Scalar.Single

/-!
This module contains the ways in which a deed can fail, and what is left of the rig where it does
not. On a rig without a motion it is only a number given by the program that fails, and there is a
motion afterwards only if the program waits for its end.
-/

namespace ReefRover

variable {R : Type} [Scalar R]

class Tuning.Valid (R : Type) [Scalar R] : Prop where
  zero_finite : Scalar.isFinite (Scalar.zero : R) = true
  turn_finite : Scalar.isFinite (Tuning.defaultTurnDegrees : R) = true
  velocity_finite : Scalar.isFinite (Tuning.defaultVelocity : R) = true
  wait_finite : Scalar.isFinite (Tuning.defaultWait : R) = true
  repeat_finite : Scalar.isFinite (Tuning.defaultRepeat : R) = true
  zero_not_lt : ¬ (Scalar.zero : R) < Scalar.zero

instance : Tuning.Valid Float32 where
  zero_finite := by decide
  turn_finite := by decide
  velocity_finite := by decide
  wait_finite := by decide
  repeat_finite := by decide
  zero_not_lt := by decide

theorem getD_of_not_finite {given : Option R} {default : R}
    (hdefault : Scalar.isFinite default = true)
    (h : Scalar.isFinite (given.getD default) = false) : given = some (given.getD default) := by
  cases given with
  | none =>
    rw [Option.getD_none, hdefault] at h
    cases h
  | some v => rfl

theorem map_finite_eq_error {α : Type} {op field : String} {given : Option R} {default : R}
    {f : R → α} {e : ExecutionError R} (hdefault : Scalar.isFinite default = true)
    (h : (Machine.finite op field (given.getD default)).map f = .error e) :
    ∃ field' v, given.map (field, ·) = some (field', v) ∧ Scalar.isFinite v = false ∧
      e = .nonFinite op field' v := by
  cases hfinite : Machine.finite op field (given.getD default) with
  | ok v =>
    rw [hfinite] at h
    cases h
  | error e' =>
    rw [hfinite] at h
    cases h
    obtain ⟨hnot, rfl⟩ := finite_eq_error_iff.mp hfinite
    refine ⟨field, given.getD default, ?_, hnot, rfl⟩
    rw [getD_of_not_finite hdefault hnot]
    rfl

theorem Action.deed_eq_error [Tuning.Valid R] {action : Action R} {robot : Robot R}
    {around : Surroundings R} {e : ExecutionError R} (h : action.deed robot around = .error e) :
    ∃ field v, action.number? = some (field, v) ∧ Scalar.isFinite v = false ∧
      e = .nonFinite action.name field v := by
  cases action
  case drive direction distance unit =>
    cases distance with
    | none => cases h
    | some d =>
      -- there is no default here, so any finite number may stand for one
      have hgiven : (Machine.finite "drive" "distance" ((some d).getD Scalar.zero)).map _ =
          .error e := h
      exact map_finite_eq_error Tuning.Valid.zero_finite hgiven
  case turn => exact map_finite_eq_error Tuning.Valid.turn_finite h
  case turnToHeading => exact map_finite_eq_error Tuning.Valid.zero_finite h
  case turnToRotation => exact map_finite_eq_error Tuning.Valid.zero_finite h
  case setDriveVelocity => exact map_finite_eq_error Tuning.Valid.velocity_finite h
  case setTurnVelocity => exact map_finite_eq_error Tuning.Valid.velocity_finite h
  case setDriveHeading => exact map_finite_eq_error Tuning.Valid.zero_finite h
  case setDriveRotation => exact map_finite_eq_error Tuning.Valid.zero_finite h
  case setDriveTimeout => exact map_finite_eq_error Tuning.Valid.wait_finite h
  case wait => exact map_finite_eq_error Tuning.Valid.wait_finite h
  case pen action color => cases action <;> cases h
  case magnet action => cases action <;> cases h
  case stopDriving => cases h
  case print text => cases h
  case clearConsole => cases h

namespace Rig

theorem startMotion?_ne_none {rig : Rig R} {target : MotionTarget R} {duration : R}
    (h : rig.motion = none) : rig.startMotion? target duration ≠ none := by
  unfold startMotion? isMoving
  rw [h]
  simp only [Option.isSome_none, Bool.false_eq_true, if_false]
  split
  . simp
  . split <;> simp

theorem startMotion?_zero [Tuning.Valid R] {rig rig' : Rig R} {target : MotionTarget R}
    (h : rig.motion = none) (hstart : rig.startMotion? target Scalar.zero = some rig') :
    rig'.motion = none := by
  unfold startMotion? isMoving at hstart
  rw [h] at hstart
  simp only [Option.isSome_none, Bool.false_eq_true, if_false, Tuning.Valid.zero_not_lt]
    at hstart
  split at hstart
  . cases hstart
    exact h
  . cases hstart
    rfl

theorem carryOut_ne_error {rig : Rig R} {op : String} {deed : Deed R} {e : ExecutionError R}
    (h : rig.motion = none) : rig.carryOut op deed ≠ .error e := by
  cases deed with
  | move target duration =>
    cases hstart : rig.startMotion? target duration with
    | none => exact absurd hstart (startMotion?_ne_none h)
    | some rig' => simp [carryOut, hstart]
  | place target =>
    cases hstart : rig.startMotion? target Scalar.zero with
    | none => exact absurd hstart (startMotion?_ne_none h)
    | some rig' => simp [carryOut, hstart]
  | dropMotion => simp [carryOut]
  | setRobot robot => simp [carryOut]
  | pause seconds => simp [carryOut]
  | write line => simp [carryOut]

theorem motion_of_goesOn [Tuning.Valid R] {rig rig' : Rig R} {op : String} {deed : Deed R}
    {line : Option String} (h : rig.motion = none)
    (hout : rig.carryOut op deed = .ok (.goesOn rig' line)) : rig'.motion = none := by
  cases deed with
  | move target duration =>
    unfold carryOut at hout
    dsimp only at hout
    split at hout <;> cases hout
  | place target =>
    unfold carryOut at hout
    dsimp only at hout
    split at hout
    . next hstart =>
      cases hout
      exact startMotion?_zero h hstart
    . cases hout
  | dropMotion =>
    cases hout
    rfl
  | setRobot robot =>
    cases hout
    exact h
  | pause seconds => cases hout
  | write line =>
    cases hout
    exact h

theorem perform_eq_error [Tuning.Valid R] {rig : Rig R} {around : Surroundings R}
    {action : Action R} {e : ExecutionError R} (h : rig.motion = none)
    (hperform : rig.perform around action = .error e) :
    ∃ field v, action.number? = some (field, v) ∧ Scalar.isFinite v = false ∧
      e = .nonFinite action.name field v := by
  rcases bind_eq_error_iff.mp hperform with hdeed | ⟨deed, hdeed, hout⟩
  . exact Action.deed_eq_error hdeed
  . exact absurd hout (carryOut_ne_error h)

theorem motion_of_perform [Tuning.Valid R] {rig rig' : Rig R} {around : Surroundings R}
    {action : Action R} {line : Option String} (h : rig.motion = none)
    (hperform : rig.perform around action = .ok (.goesOn rig' line)) : rig'.motion = none := by
  obtain ⟨deed, hdeed, hout⟩ := bind_eq_ok_iff.mp hperform
  exact motion_of_goesOn h hout

theorem motion_step {rig : Rig R} {dt : R} (h : rig.motion = none) :
    (rig.step dt).2.motion = none := by
  unfold step
  rw [h]
  exact h

end Rig

end ReefRover
