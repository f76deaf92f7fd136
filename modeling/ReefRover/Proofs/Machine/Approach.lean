import Mathlib
import ReefRover.Proofs.Machine.Over
import ReefRover.Proofs.Scalar.Durations

/-!
This module contains the proof that motions never overshoot. In exact arithmetic the part of the way
that is behind grows with every step and stays below one up to the arrival, so each coordinate gets
nearer to its goal and stays short of it.
-/

namespace ReefRover

/-! The facts about real numbers, before they get the operations of a `Scalar`. -/

section Reals

noncomputable def wayBehind (t : ℝ) : ℝ :=
  1 - (1 - t) ^ 3

theorem wayBehind_lt {s t : ℝ} (h : s < t) : wayBehind s < wayBehind t := by
  have hodd : Odd 3 := by decide
  have hcubes := hodd.strictMono_pow (sub_lt_sub_left h 1)
  exact sub_lt_sub_left hcubes 1

theorem wayBehind_zero : wayBehind 0 = 0 := by
  norm_num [wayBehind]

theorem wayBehind_one : wayBehind 1 = 1 := by
  norm_num [wayBehind]

theorem wayBehind_nonneg {t : ℝ} (h : 0 ≤ t) : 0 ≤ wayBehind t := by
  rcases h.eq_or_lt with rfl | hpos
  . rw [wayBehind_zero]
  . rw [← wayBehind_zero]
    exact (wayBehind_lt hpos).le

theorem short_of {a b part : ℝ} (hne : b ≠ a) (hpos : 0 < part) (hlt : part < 1) :
    min a b < a + (b - a) * part ∧ a + (b - a) * part < max a b := by
  rcases lt_or_gt_of_ne hne with hback | hforth
  . rw [min_eq_right hback.le, max_eq_left hback.le]
    constructor
    . nlinarith
    . nlinarith
  . rw [min_eq_left hforth.le, max_eq_right hforth.le]
    constructor
    . nlinarith
    . nlinarith

theorem way_left (a b part : ℝ) : |b - (a + (b - a) * part)| = |b - a| * |1 - part| := by
  rw [← abs_mul]
  congr 1
  ring

theorem nearer {a b part part' : ℝ} (hne : b ≠ a) (hlt : part < part') (hle : part' ≤ 1) :
    |b - (a + (b - a) * part')| < |b - (a + (b - a) * part)| := by
  have hway : 0 < |b - a| := abs_pos.mpr (sub_ne_zero.mpr hne)
  rw [way_left, way_left, abs_of_nonneg (sub_nonneg.mpr hle),
    abs_of_nonneg (sub_nonneg.mpr (hlt.le.trans hle))]
  exact mul_lt_mul_of_pos_left (sub_lt_sub_left hlt 1) hway

/--
What a step of a motion does to a coordinate that was at `start` before the motion. If it is to
change, it stays short of its goal and gets nearer to it, and otherwise it keeps its value.
-/
structure Nears (start : ℝ) (goal : Option ℝ) (before after : ℝ) : Prop where
  short : ∀ g, goal = some g → g ≠ start → min start g < after ∧ after < max start g
  nearer : ∀ g, goal = some g → g ≠ start → |g - after| < |g - before|
  kept : goal = none ∨ goal = some start → after = start

theorem nears_of_parts {start : ℝ} {goal : Option ℝ} {part part' : ℝ} (hpos : 0 ≤ part)
    (hlt : part < part') (hlt' : part' < 1) :
    Nears start goal (start + (goal.getD start - start) * part)
      (start + (goal.getD start - start) * part') where
  short := by
    rintro g rfl hne
    exact short_of hne (hpos.trans_lt hlt) hlt'
  nearer := by
    rintro g rfl hne
    exact nearer hne hlt hlt'.le
  kept := by
    rintro (rfl | rfl)
    . simp
    . simp

end Reals

theorem easeOut_eq [Exact] {t : ℝ} (hpos : 0 ≤ t) (hle : t ≤ 1) : easeOut t = wayBehind t := by
  have hheld : Scalar.clamp (0 : ℝ) 1 t = t := by
    unfold Scalar.clamp
    dsimp only
    rw [if_neg (not_lt.mpr hpos), if_neg (not_lt.mpr hle)]
  unfold easeOut wayBehind
  rw [Exact.one_eq, Exact.zero_eq, hheld]
  ring

def Motion.later (motion : Motion ℝ) (time : ℝ) : Motion ℝ :=
  { motion with elapsed := motion.elapsed + time }

namespace Rig

def carried {R : Type} [Scalar R] (rig : Rig R) (dts : List R) : Rig R :=
  dts.foldl (fun rig dt => (rig.step dt).2) rig

variable [Exact] {rig : Rig ℝ} {motion : Motion ℝ} {dt : ℝ} {dts : List ℝ}

structure Underway (rig : Rig ℝ) (motion : Motion ℝ) : Prop where
  motion_eq : rig.motion = some motion
  cancelled : rig.cancelled = false
  pose_eq : rig.robot.pose = motion.poseAt (wayBehind (motion.elapsed / motion.duration))
  duration_pos : 0 < motion.duration
  elapsed_nonneg : 0 ≤ motion.elapsed

structure AtGoal (rig : Rig ℝ) (goal : Pose ℝ) : Prop where
  motion_eq : rig.motion = none
  pose_eq : rig.robot.pose = goal

/-! ### Steps -/

theorem AtGoal.step {goal : Pose ℝ} (h : rig.AtGoal goal) (dt : ℝ) :
    rig.step dt = (.idle, rig) := by
  unfold Rig.step
  rw [h.motion_eq]

theorem AtGoal.carried {goal : Pose ℝ} (h : rig.AtGoal goal) (dts : List ℝ) :
    (rig.carried dts).AtGoal goal := by
  induction dts with
  | nil => exact h
  | cons dt dts ih =>
    unfold Rig.carried at ih ⊢
    rw [List.foldl_cons, h.step]
    exact ih

namespace Underway

theorem arrives (h : rig.Underway motion)
    (hdue : motion.duration - 1 / 100000 ≤ motion.elapsed + dt) :
    (rig.step dt).1 = .arrived ∧ (rig.step dt).2.AtGoal motion.target := by
  have hdue' : motion.duration ≤ motion.elapsed + dt + Tuning.timeTolerance := by
    rw [Tuning.timeTolerance_eq]
    exact sub_le_iff_le_add.mp hdue
  unfold step
  rw [h.motion_eq, h.cancelled]
  dsimp only
  rw [if_neg Bool.false_ne_true, if_pos hdue']
  exact ⟨rfl, rfl, rfl⟩

theorem moves (h : rig.Underway motion) (hdt : 0 < dt)
    (hearly : motion.elapsed + dt < motion.duration - 1 / 100000) :
    (rig.step dt).1 = .moving ∧ (rig.step dt).2.Underway (motion.later dt) := by
  have hearly' : ¬ motion.duration ≤ motion.elapsed + dt + Tuning.timeTolerance := by
    rw [Tuning.timeTolerance_eq]
    exact not_le.mpr (lt_sub_iff_add_lt.mp hearly)
  have helapsed : 0 ≤ motion.elapsed + dt := add_nonneg h.elapsed_nonneg hdt.le
  have hbefore : motion.elapsed + dt ≤ motion.duration := by linarith
  have hpart : easeOut ((motion.elapsed + dt) / motion.duration) =
      wayBehind ((motion.elapsed + dt) / motion.duration) :=
    easeOut_eq (div_nonneg helapsed h.duration_pos.le) ((div_le_one h.duration_pos).mpr hbefore)
  unfold step
  rw [h.motion_eq, h.cancelled]
  dsimp only
  rw [if_neg Bool.false_ne_true, if_neg hearly', hpart]
  exact ⟨rfl, rfl, rfl, rfl, h.duration_pos, helapsed⟩

theorem carried (h : rig.Underway motion) (hdts : ∀ dt ∈ dts, 0 < dt)
    (hearly : dts ≠ [] → motion.elapsed + dts.sum < motion.duration - 1 / 100000) :
    (rig.carried dts).Underway (motion.later dts.sum) := by
  induction dts generalizing rig motion with
  | nil =>
    have hsame : motion.later 0 = motion := by
      unfold Motion.later
      rw [add_zero]
    rw [List.sum_nil, hsame]
    exact h
  | cons dt dts ih =>
    obtain ⟨hdt, hdts⟩ := List.forall_mem_cons.mp hdts
    have hsum := hearly (List.cons_ne_nil dt dts)
    rw [List.sum_cons, ← add_assoc] at hsum
    have hrest : 0 ≤ dts.sum := List.sum_nonneg fun dt hdt => (hdts dt hdt).le
    obtain ⟨-, hnext⟩ := h.moves hdt (by linarith)
    have hcarried := ih hnext hdts fun _ => hsum
    have hlater : (motion.later dt).later dts.sum = motion.later (dt :: dts).sum := by
      unfold Motion.later
      rw [List.sum_cons, add_assoc]
    rw [← hlater]
    exact hcarried

theorem carried_of_due (h : rig.Underway motion) (hdts : ∀ dt ∈ dts, 0 < dt) (hsome : dts ≠ [])
    (hdue : motion.duration - 1 / 100000 ≤ motion.elapsed + dts.sum) :
    (rig.carried dts).AtGoal motion.target := by
  induction dts generalizing rig motion with
  | nil => exact absurd rfl hsome
  | cons dt dts ih =>
    obtain ⟨hdt, hdts⟩ := List.forall_mem_cons.mp hdts
    rw [List.sum_cons, ← add_assoc] at hdue
    rcases le_or_gt (motion.duration - 1 / 100000) (motion.elapsed + dt) with hfirst | hfirst
    . exact (h.arrives hfirst).2.carried dts
    . obtain ⟨-, hnext⟩ := h.moves hdt hfirst
      apply ih hnext hdts _ hdue
      -- a time that is due later is due in some later step
      rintro rfl
      rw [List.sum_nil, add_zero] at hdue
      exact absurd hdue (not_le.mpr hfirst)

theorem step_carried (h : rig.Underway motion) (hdts : ∀ dt ∈ dts, 0 < dt) (hdt : 0 < dt)
    {due time : ℝ} (hdue : motion.duration - 1 / 100000 = due)
    (htime : motion.elapsed + dts.sum = time) :
    let before := rig.carried dts
    ((dts ≠ [] ∧ due ≤ time) ∧ due ≤ time + dt ∧ before.step dt = (.idle, before) ∧
        before.AtGoal motion.target) ∨
      ((dts ≠ [] → time < due) ∧ due ≤ time + dt ∧ (before.step dt).1 = .arrived ∧
        (before.step dt).2.AtGoal motion.target) ∨
      ((dts ≠ [] → time < due) ∧ time + dt < due ∧ (before.step dt).1 = .moving ∧
        before.Underway (motion.later dts.sum)) := by
  subst hdue htime
  intro before
  by_cases hover : dts ≠ [] ∧ motion.duration - 1 / 100000 ≤ motion.elapsed + dts.sum
  . have hgoal : before.AtGoal motion.target := h.carried_of_due hdts hover.1 hover.2
    have hlate := hover.2.trans (lt_add_of_pos_right _ hdt).le
    exact .inl ⟨hover, hlate, hgoal.step dt, hgoal⟩
  . have hearly := fun hsome => not_le.mp fun hdue => hover ⟨hsome, hdue⟩
    have hbefore : before.Underway (motion.later dts.sum) := h.carried hdts hearly
    rcases le_or_gt (motion.duration - 1 / 100000) (motion.elapsed + dts.sum + dt) with
      hdue | hnotdue
    . obtain ⟨hstatus, hgoal⟩ := hbefore.arrives hdue
      exact .inr (.inl ⟨hearly, hdue, hstatus, hgoal⟩)
    . obtain ⟨hstatus, -⟩ := hbefore.moves hdt hnotdue
      exact .inr (.inr ⟨hearly, hnotdue, hstatus, hbefore⟩)

theorem nears {target : MotionTarget ℝ} (h : rig.Underway motion) (hdt : 0 < dt)
    (hearly : motion.elapsed + dt < motion.duration - 1 / 100000)
    (htarget : motion.target = target.resolve motion.start) :
    let start := motion.start
    let next := (rig.step dt).2
    Nears start.x target.x rig.robot.x next.robot.x ∧
      Nears start.y target.y rig.robot.y next.robot.y ∧
      Nears start.rotation target.rotation rig.robot.rotation next.robot.rotation := by
  intro start next
  have hpos := h.duration_pos
  have hbegun : 0 ≤ wayBehind (motion.elapsed / motion.duration) :=
    wayBehind_nonneg (div_nonneg h.elapsed_nonneg hpos.le)
  have hparts : wayBehind (motion.elapsed / motion.duration) <
      wayBehind ((motion.elapsed + dt) / motion.duration) :=
    wayBehind_lt ((div_lt_div_iff_of_pos_right hpos).mpr (lt_add_of_pos_right _ hdt))
  have hshort : wayBehind ((motion.elapsed + dt) / motion.duration) < 1 := by
    rw [← wayBehind_one]
    exact wayBehind_lt ((div_lt_one hpos).mpr (by linarith))
  have hpose := h.pose_eq
  have hpose' := (h.moves hdt hearly).2.pose_eq
  unfold Motion.poseAt at hpose hpose'
  unfold Motion.later at hpose'
  rw [htarget] at hpose hpose'
  have hx : rig.robot.x = _ := congrArg Pose.x hpose
  have hx' : next.robot.x = _ := congrArg Pose.x hpose'
  have hy : rig.robot.y = _ := congrArg Pose.y hpose
  have hy' : next.robot.y = _ := congrArg Pose.y hpose'
  have hrotation : rig.robot.rotation = _ := congrArg Pose.rotation hpose
  have hrotation' : next.robot.rotation = _ := congrArg Pose.rotation hpose'
  rw [hx, hx', hy, hy', hrotation, hrotation']
  exact ⟨nears_of_parts hbegun hparts hshort, nears_of_parts hbegun hparts hshort,
    nears_of_parts hbegun hparts hshort⟩

end Underway

/-! ### Whole motions -/

def motionFrom (pose : Pose ℝ) (target : MotionTarget ℝ) (duration : ℝ) : Motion ℝ where
  start := pose
  target := target.resolve pose
  duration := duration
  elapsed := 0

theorem underway_startMotion? (hmotion : rig.motion = none) (hcancelled : rig.cancelled = false)
    (target : MotionTarget ℝ) {duration : ℝ} (hduration : 0 < duration) :
    ∃ started, rig.startMotion? target duration = some started ∧ started.robot = rig.robot ∧
      started.Underway (motionFrom rig.robot.pose target duration) := by
  have hpos : (Scalar.zero : ℝ) < duration := by
    rw [Exact.zero_eq]
    exact hduration
  unfold startMotion? isMoving
  rw [hmotion, hcancelled, Option.isSome_none, if_neg Bool.false_ne_true,
    if_neg Bool.false_ne_true]
  dsimp only
  rw [if_pos hpos, Exact.zero_eq]
  refine ⟨_, rfl, rfl, rfl, rfl, ?_, hduration, le_rfl⟩
  unfold motionFrom Motion.poseAt
  rw [zero_div, wayBehind_zero]
  simp only [mul_zero, add_zero]

theorem pose_carried_of_cancelled (h : rig.cancelled = true) (dts : List ℝ) :
    (rig.carried dts).robot.pose = rig.robot.pose := by
  induction dts generalizing rig with
  | nil => rfl
  | cons dt dts ih =>
    have hrest := ih ((rig.cancelled_step dt).trans h)
    rw [Machine.robot_step_of_cancelled h] at hrest
    exact hrest

/--
A motion of some duration, carried on by positive times, is under way until the times since its
start add up to the duration, less the tolerance. Up to then each step brings the coordinates that
are to change strictly nearer to their goals, without reaching them. The step in which the sum comes
up to that arrives at the target, and steps after that do nothing. Cancelling or dropping the motion
leaves the robot where the last step has brought it.
-/
theorem motion_never_overshoots (rig : Rig ℝ) (target : MotionTarget ℝ) (duration : ℝ)
    (dts : List ℝ) (dt : ℝ) (hmotion : rig.motion = none) (hcancelled : rig.cancelled = false)
    (hduration : 0 < duration) (hdts : ∀ dt ∈ dts, 0 < dt) (hdt : 0 < dt) :
    ∃ started, rig.startMotion? target duration = some started ∧ started.robot = rig.robot ∧
      let start := rig.robot.pose
      let due := duration - 1 / 100000
      let before := started.carried dts
      let status := (before.step dt).1
      let after := (before.step dt).2
      (status = .moving ↔ dts.sum + dt < due) ∧
      (status = .arrived ↔ due ≤ dts.sum + dt ∧ (dts ≠ [] → dts.sum < due)) ∧
      (status = .idle ↔ dts ≠ [] ∧ due ≤ dts.sum) ∧
      (status = .moving →
        Nears start.x target.x before.robot.x after.robot.x ∧
        Nears start.y target.y before.robot.y after.robot.y ∧
        Nears start.rotation target.rotation before.robot.rotation after.robot.rotation) ∧
      (status ≠ .moving → after.isMoving = false ∧ after.robot.pose = target.resolve start) ∧
      ∀ later, (before.cancel.carried later).robot.pose = before.robot.pose ∧
        (before.dropMotion.2.carried later).robot.pose = before.robot.pose := by
  obtain ⟨started, hstart, hrobot, hunderway⟩ :=
    underway_startMotion? hmotion hcancelled target hduration
  refine ⟨started, hstart, hrobot, ?_⟩
  intro start due before status after
  have hdropped (later : List ℝ) :
      (before.cancel.carried later).robot.pose = before.robot.pose ∧
        (before.dropMotion.2.carried later).robot.pose = before.robot.pose := by
    have hnone : before.dropMotion.2.AtGoal before.robot.pose := ⟨rfl, rfl⟩
    exact ⟨pose_carried_of_cancelled rfl later, (hnone.carried later).pose_eq⟩
  have hsince : (motionFrom start target duration).elapsed + dts.sum = dts.sum := zero_add _
  have hlength : (motionFrom start target duration).duration - 1 / 100000 = due := rfl
  rcases hunderway.step_carried hdts hdt hlength hsince with
    ⟨hover, hlate, hidle, hgoal⟩ | ⟨hearly, hdue, hstatus, hgoal⟩ |
      ⟨hearly, hnotdue, hstatus, hmoving⟩
  . have hstatus : status = .idle := congrArg Prod.fst hidle
    have hafter : after = before := congrArg Prod.snd hidle
    rw [hstatus, hafter]
    refine ⟨?_, ?_, ?_, by simp, ?_, hdropped⟩
    . simp [hlate]
    . simp [hover]
    . simp [hover]
    . intro _
      exact ⟨congrArg Option.isSome hgoal.motion_eq, hgoal.pose_eq⟩
  . change status = .arrived at hstatus
    rw [hstatus]
    refine ⟨?_, ?_, ?_, by simp, ?_, hdropped⟩
    . simp [hdue]
    . simpa [hdue] using hearly
    . simpa using hearly
    . intro _
      exact ⟨congrArg Option.isSome hgoal.motion_eq, hgoal.pose_eq⟩
  . change status = .moving at hstatus
    have hsoon : (motionFrom start target duration).elapsed + dts.sum + dt < due :=
      hsince.symm ▸ hnotdue
    rw [hstatus]
    refine ⟨?_, ?_, ?_, ?_, by simp, hdropped⟩
    . simp [hnotdue]
    . simp [hnotdue]
    . simpa using hearly
    . intro _
      exact hmoving.nears hdt hsoon rfl

end Rig

theorem Rig.nearer_in_the_third_of_four_steps :
    let _ : Exact :=
      { facing := fun degrees =>
          (Real.sin (degrees * Real.pi / 180), -Real.cos (degrees * Real.pi / 180))
        isFinite := fun _ => true }
    let rig : Rig ℝ := Rig.atRest ⟨200, 200⟩
    ∃ started, rig.startMotion? (.toPosition ⟨200, 100⟩) (1 / 2) = some started ∧
      let before := started.carried [1 / 8, 1 / 8]
      let (status, after) := before.step (1 / 8)
      status = .moving ∧ Nears 200 (some 100) before.robot.y after.robot.y := by
  intro trig rig
  have htimes : ∀ dt ∈ ([1 / 8, 1 / 8] : List ℝ), 0 < dt := by
    intro dt hdt
    rw [List.eq_of_mem_replicate (show dt ∈ List.replicate 2 (1 / 8) from hdt)]
    norm_num
  obtain ⟨started, hstart, -, hmoving, -, -, hnears, -⟩ :=
    motion_never_overshoots rig (.toPosition ⟨200, 100⟩) (1 / 2) [1 / 8, 1 / 8] (1 / 8) rfl rfl
      (by norm_num) htimes (by norm_num)
  have hearly : ([1 / 8, 1 / 8] : List ℝ).sum + 1 / 8 < 1 / 2 - 1 / 100000 := by norm_num
  exact ⟨started, hstart, hmoving.mpr hearly, (hnears (hmoving.mpr hearly)).2.1⟩

end ReefRover
