import ReefRover.Proofs.Machine.Cancel
import ReefRover.Proofs.Machine.Position
import ReefRover.Proofs.Machine.Upheld
import ReefRover.Proofs.Scalar.Constants
import ReefRover.Proofs.Scalar.Facing

/-!
This module contains how far the numbers of a robot can get. A robot at rest is never more than
`2 ^ 126` away, since such a number absorbs what a moderate drive or turn adds to it, and on the way
between two such places no number overflows. Its heading and its velocities are set to nothing but
finite numbers.
-/

namespace ReefRover

open Floating Single

/-! ### Poses -/

structure Pose.Finite (pose : Pose Float32) : Prop where
  x : Scalar.isFinite pose.x = true
  y : Scalar.isFinite pose.y = true
  rotation : Scalar.isFinite pose.rotation = true

/-- A number that a robot at rest can have. -/
def Reached (a : Float32) : Prop :=
  Within a (-2 ^ (126 : Int)) (2 ^ (126 : Int))

structure Pose.Reached (pose : Pose Float32) : Prop where
  x : ReefRover.Reached pose.x
  y : ReefRover.Reached pose.y
  rotation : ReefRover.Reached pose.rotation

theorem Pose.Reached.finite {pose : Pose Float32} (h : pose.Reached) : pose.Finite :=
  ⟨h.x.isFinite, h.y.isFinite, h.rotation.isFinite⟩

theorem reached_add {a b : Float32} {low high : ℝ} (ha : Reached a) (hb : Within b low high)
    (hsmall : |toReal b| < 2 ^ (102 : Int)) : Reached (a + b) := by
  have ha' := abs_le.mpr ⟨ha.ge, ha.le⟩
  exact (gives_add ha hb).within_two_zpow (by decide) (by decide)
    ((abs_add_le _ _).trans_lt (add_lt_add_of_le_of_lt ha' hsmall))

/-! ### Motions -/

theorem within_mul_unit {a b : Float32} (ha : Within a 0 1) (hb : Within b 0 1) :
    Within (a * b) 0 1 :=
  (gives_mul ha hb).within bound_zero bound_one (mul_nonneg ha.ge hb.ge)
    (mul_le_one₀ ha.le hb.ge hb.le)

theorem within_rest_of_one {a : Float32} (ha : Within a 0 1) : Within (Scalar.one - a) 0 1 := by
  apply (gives_sub within_one ha).within bound_zero bound_one
  . rw [within_one.toReal_eq]
    exact sub_nonneg.mpr ha.le
  . rw [within_one.toReal_eq]
    exact sub_le_self _ ha.ge

theorem within_clamp {low high t : Float32} {a b c d : ℝ} (hlow : Within low a a)
    (hhigh : Within high b b) (ht : Within t c d) (hab : a ≤ b) :
    Within (Scalar.clamp low high t) a b := by
  unfold Scalar.clamp
  dsimp only
  by_cases hbelow : t < low
  . rw [if_pos hbelow]
    have hnot : ¬ high < low := by
      rw [lt_iff_toReal hhigh hlow, hhigh.toReal_eq, hlow.toReal_eq]
      exact hab.not_gt
    rw [if_neg hnot]
    exact hlow.mono le_rfl hab
  . rw [if_neg hbelow]
    rw [lt_iff_toReal ht hlow, hlow.toReal_eq, not_lt] at hbelow
    split
    . exact hhigh.mono hab le_rfl
    . next habove =>
      rw [lt_iff_toReal hhigh ht, hhigh.toReal_eq, not_lt] at habove
      exact ⟨ht.isFinite, hbelow, habove⟩

theorem within_easeOut {t : Float32} {low high : ℝ} (ht : Within t low high) :
    Within (easeOut t) 0 1 := by
  have hleft := within_rest_of_one (within_clamp within_zero within_one ht zero_le_one)
  exact within_rest_of_one (within_mul_unit (within_mul_unit hleft hleft) hleft)

structure Motion.InRange (motion : Motion Float32) : Prop where
  start : motion.start.Reached
  target : motion.target.Reached
  duration : Within motion.duration (2 ^ (-1 : Int)) 1
  elapsed : Within motion.elapsed 0 1

theorem isFinite_between {a b eased : Float32} (ha : Reached a) (hb : Reached b)
    (heased : Within eased 0 1) : Scalar.isFinite (a + (b - a) * eased) = true := by
  have hdiff : Within (b - a) (-2 ^ (127 : Int)) (2 ^ (127 : Int)) :=
    within_sub_abs hb ha (bound_zpow (by decide)) (by norm_num)
  have hway : Within ((b - a) * eased) (-2 ^ (127 : Int)) (2 ^ (127 : Int)) :=
    within_mul_abs hdiff (heased.mono (by norm_num) le_rfl) (bound_zpow (by decide)) (by norm_num)
  have hsum : Within (a + (b - a) * eased) (-((3 : Nat) * 2 ^ (126 : Int)))
      ((3 : Nat) * 2 ^ (126 : Int)) :=
    within_add_abs ha hway
      (bound (3 * 2 ^ 22) 104 (by norm_num) (by decide) (by decide)) (by norm_num)
  exact hsum.isFinite

theorem Motion.InRange.finite_poseAt {motion : Motion Float32} (h : motion.InRange)
    {eased : Float32} (heased : Within eased 0 1) : (motion.poseAt eased).Finite :=
  ⟨isFinite_between h.start.x h.target.x heased, isFinite_between h.start.y h.target.y heased,
    isFinite_between h.start.rotation h.target.rotation heased⟩

theorem Motion.InRange.later {motion : Motion Float32} (h : motion.InRange) {dt : Float32}
    (hdt : Within dt 0 1)
    (hnot : ¬ motion.duration ≤ motion.elapsed + dt + Tuning.timeTolerance) :
    Motion.InRange { motion with elapsed := motion.elapsed + dt } := by
  have htwo : Bound .binary32 (2 ^ (1 : Int)) := bound_zpow (by decide)
  have hsum : Within (motion.elapsed + dt) 0 (2 ^ (1 : Int)) := by
    apply (gives_add h.elapsed hdt).within bound_zero htwo
    . exact add_nonneg h.elapsed.ge hdt.ge
    . norm_num
      linarith [h.elapsed.toReal_le, hdt.toReal_le]
  have htolerance := Tuning.within_timeTolerance
  have hlater : Within (motion.elapsed + dt + Tuning.timeTolerance)
      (toReal (motion.elapsed + dt)) (2 ^ (2 : Int)) := by
    apply (gives_add hsum htolerance).within (bound_toReal _) (bound_zpow (by decide))
    . exact le_add_of_nonneg_right htolerance.ge
    . norm_num
      have hle := hsum.toReal_le
      norm_num at hle
      linarith [htolerance.toReal_le]
  rw [le_iff_toReal h.duration hlater, not_le] at hnot
  have hle : toReal (motion.elapsed + dt) ≤ 1 :=
    hlater.ge.trans (hnot.le.trans h.duration.le)
  exact { h with elapsed := ⟨hsum.isFinite, hsum.ge, hle⟩ }

theorem Motion.InRange.within_part {motion : Motion Float32} (h : motion.InRange) :
    Within (motion.elapsed / motion.duration) 0 (2 ^ (1 : Int)) := by
  have hpos : 0 < toReal motion.duration := (two_zpow_pos _).trans_le h.duration.ge
  apply (gives_div h.elapsed h.duration hpos.ne').within bound_zero (bound_zpow (by decide))
  . exact div_nonneg h.elapsed.ge hpos.le
  . rw [div_le_iff₀ hpos]
    have hge := h.duration.le_toReal
    have hle := h.elapsed.toReal_le
    norm_num at hge ⊢
    linarith

/-! ### Rigs -/

structure Rig.InRange (rig : Rig Float32) : Prop where
  finite : rig.robot.pose.Finite
  rest : rig.motion = none → rig.cancelled = false → rig.robot.pose.Reached
  motion : ∀ motion, rig.motion = some motion → motion.InRange

namespace Rig.InRange

variable {rig : Rig Float32}

theorem cancelled (hfinite : rig.robot.pose.Finite) :
    InRange { rig with motion := none, cancelled := true } :=
  ⟨hfinite, nofun, nofun⟩

theorem placed {pose : Pose Float32} (hpose : pose.Reached) (cancelled : Bool) :
    InRange { robot := rig.robot.place pose, motion := none, cancelled } :=
  ⟨hpose.finite, fun _ _ => hpose, nofun⟩

theorem step (h : rig.InRange) {dt : Float32} (hdt : Within dt 0 1) : (rig.step dt).2.InRange := by
  unfold Rig.step
  split
  . exact h
  . next motion hmotion =>
    have hrange := h.motion motion hmotion
    split
    . next hcancelled =>
      refine ⟨h.finite, fun _ hnot => ?_, nofun⟩
      rw [hcancelled] at hnot
      cases hnot
    . dsimp only
      split
      . exact placed hrange.target _
      . next hnot =>
        have hlater := hrange.later hdt hnot
        refine ⟨hlater.finite_poseAt (within_easeOut hlater.within_part), nofun, ?_⟩
        intro motion' heq
        cases heq
        exact hlater

end Rig.InRange

/-! ### Blocks -/

/-- Whether a number is not beyond a limit, if it is finite. Others make their block fail. -/
def Moderate (limit value : Float32) : Prop :=
  Scalar.isFinite value = true → -limit ≤ value ∧ value ≤ limit

/-- Whether a block moves the robot by no more than the place of a robot at rest absorbs. -/
def Action.Moderate : Action Float32 → Prop
  | .drive _ (some distance) _ => ReefRover.Moderate (Scalar.ofNat (2 ^ 99)) distance
  | .turn _ (some degrees) => ReefRover.Moderate (Scalar.ofNat (2 ^ 101)) degrees
  | .turnToHeading (some rotation) | .turnToRotation (some rotation)
  | .setDriveRotation (some rotation) => ReefRover.Moderate (Scalar.ofNat (2 ^ 126)) rotation
  | _ => True

theorem Moderate.within {k : Nat} (hk : k ≤ 127) {value : Float32}
    (h : Moderate (Scalar.ofNat (2 ^ k)) value) (hfinite : Scalar.isFinite value = true) :
    Within value (-2 ^ (k : Int)) (2 ^ (k : Int)) := by
  have hvalue : Within value (toReal value) (toReal value) := ⟨hfinite, le_rfl, le_rfl⟩
  have hlimit : Within (Scalar.ofNat (2 ^ k) : Float32) (2 ^ (k : Int)) (2 ^ (k : Int)) := by
    have hgives := gives_ofNat (2 ^ k)
    push_cast at hgives
    rw [← zpow_natCast] at hgives
    exact hgives.exactly (bound_zpow (by omega))
  obtain ⟨hge, hle⟩ := h hfinite
  have hneg := within_neg hlimit
  rw [le_iff_toReal hneg hvalue, hneg.toReal_eq] at hge
  rw [le_iff_toReal hvalue hlimit, hlimit.toReal_eq] at hle
  exact ⟨hfinite, hge, hle⟩

def Deed.InRange (robot : Robot Float32) : Deed Float32 → Prop
  | .move target duration =>
    (target.resolve robot.pose).Reached ∧ Within duration (2 ^ (-1 : Int)) 1
  | .place target => (target.resolve robot.pose).Reached
  | .setRobot robot' => robot'.pose = robot.pose
  | .dropMotion | .pause _ | .write _ => True

theorem within_drivePixels {distance : Float32} (unit : Option DistanceUnit)
    (h : Within distance (-2 ^ (99 : Int)) (2 ^ (99 : Int))) :
    Within (Machine.drivePixels distance unit) (-2 ^ (99 : Int)) (2 ^ (99 : Int)) := by
  unfold Machine.drivePixels
  split
  . have hfive : Within (Tuning.millimetresPerPixel : Float32) (5 : Nat) (5 : Nat) :=
      within_scalar (by decide)
    have hzero : toReal (Tuning.millimetresPerPixel : Float32) ≠ 0 := by
      rw [hfive.toReal_eq]
      norm_num
    apply (gives_div h hfive hzero).within_abs (bound_zpow (by decide))
    rw [hfive.toReal_eq, abs_div]
    refine (div_le_self (abs_nonneg _) ?_).trans h.abs_toReal_le
    norm_num
  . exact h
  . exact h

theorem within_driveSign (direction : DriveDirection) :
    Within (Machine.driveSign direction : Float32) (-1) 1 := by
  have hone := within_one.mono (by norm_num : (-1 : ℝ) ≤ 1) le_rfl
  cases direction with
  | forward => exact hone
  | reverse => exact within_neg_abs hone

theorem within_facing {rotation : Float32} (h : Reached rotation) :
    Within (facing rotation).1 (-5) 5 ∧ Within (facing rotation).2 (-5) 5 := by
  have hperDegree : Within (Float32.ofBits 0x3c8efa35) (-1) 1 := by
    have hself : Within (Float32.ofBits 0x3c8efa35) (9370165 * 2 ^ (-29 : Int))
        (9370165 * 2 ^ (-29 : Int)) := ⟨rfl, le_rfl, le_rfl⟩
    exact hself.mono (by norm_num) (by norm_num)
  have hangle : Within (radians rotation) (-2 ^ (126 : Int)) (2 ^ (126 : Int)) :=
    within_mul_abs h hperDegree (bound_zpow (by decide)) (mul_one _).le
  exact ⟨atMost_sine hangle.isFinite, (atMost_cosine hangle.isFinite).neg⟩

theorem reached_toward {robot : Robot Float32} (h : robot.pose.Reached) {pixels scale : Float32}
    (direction : DriveDirection) (hpixels : Within pixels (-2 ^ (99 : Int)) (2 ^ (99 : Int)))
    (hscale : Within scale 1 ((3 : Nat) * 2 ^ (-1 : Int))) :
    let target := robot.position.toward (facing robot.rotation)
      (pixels * scale * Machine.driveSign direction)
    Reached target.x ∧ Reached target.y := by
  have hbound : ∀ (n : Nat) (k : Int), n < 2 ^ 24 → -149 ≤ k ∧ k ≤ 104 →
      Bound .binary32 ((n : ℝ) * 2 ^ k) :=
    fun n k hn hk => bound n k (abs_of_nonneg (by positivity)) hn hk
  have hscale := hscale.mono (by norm_num : -((3 : Nat) * 2 ^ (-1 : Int) : ℝ) ≤ 1) le_rfl
  have hlength : Within (pixels * scale * Machine.driveSign direction)
      (-((3 : Nat) * 2 ^ (98 : Int))) ((3 : Nat) * 2 ^ (98 : Int)) := by
    have hbound := hbound 3 98 (by decide) (by decide)
    exact within_mul_abs (within_mul_abs hpixels hscale hbound (by norm_num))
      (within_driveSign direction) hbound (by norm_num)
  have hway : ∀ part : Float32, Within part (-5) 5 → ∀ a, Reached a →
      Reached (a + part * (pixels * scale * Machine.driveSign direction)) := by
    intro part hpart a ha
    have hproduct := within_mul_abs hpart hlength (hbound 15 98 (by decide) (by decide))
      (by norm_num)
    exact reached_add ha hproduct (hproduct.abs_toReal_le.trans_lt (by norm_num))
  obtain ⟨hx, hy⟩ := within_facing h.rotation
  exact ⟨hway _ hx _ h.x, hway _ hy _ h.y⟩

theorem reached_turned {a degrees : Float32} (ha : Reached a)
    (hdegrees : Within degrees (-2 ^ (101 : Int)) (2 ^ (101 : Int))) : Reached (a + degrees) :=
  reached_add ha hdegrees (hdegrees.abs_toReal_le.trans_lt (by norm_num))

theorem isFinite_of_map {α : Type} {op field : String} {value : Float32} {f : Float32 → α} {a : α}
    (h : (Machine.finite op field value).map f = .ok a) : Scalar.isFinite value = true := by
  unfold Machine.finite at h
  split at h
  . next hfinite => exact hfinite
  . cases h

theorem within_getD {k : Nat} (hk : k ≤ 127) {given : Option Float32} {default : Float32}
    (hdefault : Within default (-2 ^ (k : Int)) (2 ^ (k : Int)))
    (hgiven : ∀ value, given = some value → Moderate (Scalar.ofNat (2 ^ k)) value)
    (hfinite : Scalar.isFinite (given.getD default) = true) :
    Within (given.getD default) (-2 ^ (k : Int)) (2 ^ (k : Int)) := by
  cases given with
  | none => exact hdefault
  | some value => exact (hgiven value rfl).within hk hfinite

theorem within_constant {n k : Nat} (hn : n < 2 ^ 24) (hle : n ≤ 2 ^ k) :
    Within (Scalar.ofNat n : Float32) (-2 ^ (k : Int)) (2 ^ (k : Int)) := by
  have hle : (n : ℝ) ≤ 2 ^ (k : Int) := by
    rw [zpow_natCast]
    exact_mod_cast hle
  exact (within_scalar hn).mono ((neg_nonpos.mpr (two_zpow_pos _).le).trans (Nat.cast_nonneg n)) hle

theorem reached_turn_target {given : Option Float32}
    (hgiven : ∀ value, given = some value → Moderate (Scalar.ofNat (2 ^ 126)) value)
    (hfinite : Scalar.isFinite (given.getD Scalar.zero) = true) :
    Reached (given.getD Scalar.zero) :=
  within_getD (by decide) (within_constant (by decide) (by decide)) hgiven hfinite

theorem Action.inRange_of_deed {action : Action Float32} {robot : Robot Float32} {layout : Layout}
    {clock : Float32} {deed : Deed Float32} (hmoderate : action.Moderate)
    (h : robot.pose.Reached) (hdeed : action.deed robot ⟨layout.factor, clock⟩ = .ok deed) :
    deed.InRange robot := by
  have hmotion := Tuning.within_motionDuration.mono le_rfl (by norm_num : _ ≤ (1 : ℝ))
  have hfactor := layout.within_factor.mono layout.one_le_exactFactor layout.exactFactor_le
  cases action
  case drive direction distance unit =>
    cases distance with
    | none =>
      cases hdeed
      obtain ⟨hx, hy⟩ := reached_toward h direction
        (within_constant (n := 100) (k := 99) (by decide) (by decide)) hfactor
      exact ⟨⟨hx, hy, h.rotation⟩, within_one.mono (by norm_num) le_rfl⟩
    | some d =>
      have hfinite := isFinite_of_map hdeed
      cases map_finite_eq_ok hdeed
      obtain ⟨hx, hy⟩ := reached_toward h direction
        (within_drivePixels unit (Moderate.within (by decide) hmoderate hfinite)) hfactor
      exact ⟨⟨hx, hy, h.rotation⟩, hmotion⟩
  case turn direction degrees =>
    have hfinite := isFinite_of_map hdeed
    cases map_finite_eq_ok hdeed
    have hdegrees : Within (degrees.getD Tuning.defaultTurnDegrees)
        (-2 ^ (101 : Int)) (2 ^ (101 : Int)) := by
      apply within_getD (k := 101) (by decide) (within_constant (by decide) (by decide))
        _ hfinite
      rintro value rfl
      exact hmoderate
    cases direction with
    | right => exact ⟨⟨h.x, h.y, reached_turned h.rotation hdegrees⟩, hmotion⟩
    | left => exact ⟨⟨h.x, h.y, reached_turned h.rotation (within_neg_abs hdegrees)⟩, hmotion⟩
  case turnToHeading given | turnToRotation given =>
    have hfinite := isFinite_of_map hdeed
    cases map_finite_eq_ok hdeed
    refine ⟨⟨h.x, h.y, reached_turn_target ?_ hfinite⟩, hmotion⟩
    rintro value rfl
    exact hmoderate
  case setDriveRotation given =>
    have hfinite := isFinite_of_map hdeed
    cases map_finite_eq_ok hdeed
    refine ⟨h.x, h.y, reached_turn_target ?_ hfinite⟩
    rintro value rfl
    exact hmoderate
  case setDriveVelocity | setTurnVelocity | setDriveHeading =>
    cases map_finite_eq_ok hdeed
    rfl
  case setDriveTimeout | wait =>
    cases map_finite_eq_ok hdeed
    trivial
  case pen action color =>
    cases action <;>
      cases hdeed <;> trivial
  case magnet action =>
    cases action <;>
      cases hdeed <;> trivial
  case stopDriving | print | clearConsole =>
    cases hdeed
    trivial

namespace Rig

variable {rig rig' : Rig Float32}

theorem InRange.startMotion (h : rig.InRange) (hmotion : rig.motion = none)
    (hcancelled : rig.cancelled = false) {target : MotionTarget Float32} {duration : Float32}
    (htarget : (target.resolve rig.robot.pose).Reached)
    (hduration : Scalar.zero < duration → Within duration (2 ^ (-1 : Int)) 1)
    (hstart : rig.startMotion? target duration = some rig') : rig'.InRange := by
  unfold startMotion? at hstart
  split at hstart
  . cases hstart
  . split at hstart
    . cases hstart
      exact h
    . dsimp only at hstart
      split at hstart
      . next hlasts =>
        cases hstart
        refine ⟨h.finite, nofun, ?_⟩
        intro motion heq
        cases heq
        exact ⟨h.rest hmotion hcancelled, htarget, hduration hlasts,
          within_zero.mono le_rfl zero_le_one⟩
      . cases hstart
        refine ⟨htarget.finite, fun _ _ => htarget, ?_⟩
        rw [hmotion]
        nofun

theorem upheld_inRange (layout : Layout) (clock : Float32) :
    Upheld ⟨layout.factor, clock⟩ Action.Moderate fun rig =>
      rig.InRange ∧ rig.cancelled = false := by
  rintro rig rig' action deed hmoderate hmotion ⟨h, hcancelled⟩ hdeed hleads
  refine ⟨?_, (cancelled_kept hdeed hleads).trans hcancelled⟩
  have hrange := Action.inRange_of_deed hmoderate (h.rest hmotion hcancelled) hdeed
  cases deed with
  | move target duration =>
    exact h.startMotion hmotion hcancelled hrange.1 (fun _ => hrange.2) hleads
  | place target =>
    refine h.startMotion hmotion hcancelled hrange ?_ hleads
    intro hlasts
    rw [lt_iff_toReal within_zero within_zero] at hlasts
    exact absurd hlasts (lt_irrefl _)
  | setRobot robot =>
    cases hleads
    have hpose : robot.pose = rig.robot.pose := hrange
    refine ⟨?_, fun _ _ => ?_, h.motion⟩
    . rw [hpose]
      exact h.finite
    . rw [hpose]
      exact h.rest hmotion hcancelled
  | dropMotion =>
    cases hleads
    exact ⟨h.finite, fun _ => h.rest hmotion, nofun⟩
  | pause | write =>
    cases hleads
    exact h

end Rig

/-! ### Heading and velocities -/

/-- Whether what a robot is set to is finite, with the velocities in percent. -/
structure Robot.Fit (robot : Robot Float32) : Prop where
  heading : Scalar.isFinite robot.heading = true
  driveVelocity : Within robot.driveVelocity 0 (100 : Nat)
  turnVelocity : Within robot.turnVelocity 0 (100 : Nat)

def Deed.Fit : Deed Float32 → Prop
  | .setRobot robot => robot.Fit
  | .move _ _ | .place _ | .dropMotion | .pause _ | .write _ => True

theorem within_velocity {v : Float32} (hfinite : Scalar.isFinite v = true) :
    Within (Scalar.clamp Scalar.zero Tuning.maxVelocity v) 0 (100 : Nat) :=
  within_clamp within_zero (within_scalar (n := 100) (by decide))
    (⟨hfinite, le_rfl, le_rfl⟩ : Within v (toReal v) (toReal v)) (Nat.cast_nonneg _)

theorem Action.fit_of_deed {action : Action Float32} {robot : Robot Float32}
    {around : Surroundings Float32} {deed : Deed Float32} (h : robot.Fit)
    (hdeed : action.deed robot around = .ok deed) : deed.Fit := by
  cases action
  case setDriveVelocity =>
    have hfinite := isFinite_of_map hdeed
    cases map_finite_eq_ok hdeed
    exact { h with driveVelocity := within_velocity hfinite }
  case setTurnVelocity =>
    have hfinite := isFinite_of_map hdeed
    cases map_finite_eq_ok hdeed
    exact { h with turnVelocity := within_velocity hfinite }
  case setDriveHeading =>
    have hfinite := isFinite_of_map hdeed
    cases map_finite_eq_ok hdeed
    exact { h with heading := hfinite }
  case drive direction distance unit =>
    cases distance with
    | none =>
      cases hdeed
      trivial
    | some d =>
      cases map_finite_eq_ok hdeed
      trivial
  case turn direction degrees =>
    cases map_finite_eq_ok hdeed
    cases direction <;> trivial
  case turnToHeading | turnToRotation | setDriveRotation | setDriveTimeout | wait =>
    cases map_finite_eq_ok hdeed
    trivial
  case pen action color =>
    cases action <;>
      cases hdeed <;> trivial
  case magnet action =>
    cases action <;>
      cases hdeed <;> trivial
  case stopDriving | print | clearConsole =>
    cases hdeed
    trivial

namespace Rig

variable {rig rig' : Rig Float32}

theorem fit_startMotion (h : rig.robot.Fit) {target : MotionTarget Float32} {duration : Float32}
    (hstart : rig.startMotion? target duration = some rig') : rig'.robot.Fit := by
  rcases startMotion?_eq_some hstart with rfl | ⟨motion, rfl⟩ | ⟨-, rfl⟩
  . exact h
  . exact h
  . exact { h with }

theorem fit_step (h : rig.robot.Fit) (dt : Float32) : (rig.step dt).2.robot.Fit := by
  unfold step
  split
  . exact h
  . split
    . exact h
    . dsimp only
      split
      . exact { h with }
      . exact { h with }

theorem upheld_fit (around : Surroundings Float32) :
    Upheld around (fun _ => True) fun rig => rig.robot.Fit := by
  intro rig rig' action deed _ _ h hdeed hleads
  have hfit := Action.fit_of_deed h hdeed
  cases deed with
  | move | place => exact fit_startMotion h hleads
  | setRobot robot =>
    cases hleads
    exact hfit
  | dropMotion | pause | write =>
    cases hleads
    exact h

end Rig

end ReefRover
