import ReefRover.Proofs.Machine.Settle

/-!
This module contains maneuvers, the blocks that lead the robot from one pose to another. Where a
maneuver leads depends on where the one before it led, not on the poses between them. So a walk
through nothing but maneuvers ends where they lead one after the other.
-/

namespace ReefRover

variable {R : Type}

inductive Maneuver (R : Type) where
  | drive (direction : DriveDirection) (distance : Option R) (unit : Option DistanceUnit)
  | turn (direction : TurnDirection) (degrees : Option R)
  | turnToHeading (heading : Option R)
  | turnToRotation (rotation : Option R)
  | setDriveRotation (rotation : Option R)

namespace Maneuver

def action : Maneuver R → Action R
  | drive direction distance unit => .drive direction distance unit
  | turn direction degrees => .turn direction degrees
  | turnToHeading heading => .turnToHeading heading
  | turnToRotation rotation => .turnToRotation rotation
  | setDriveRotation rotation => .setDriveRotation rotation

def op (maneuver : Maneuver R) : Op R :=
  .action maneuver.action

variable [Scalar R]

def IsFinite (maneuver : Maneuver R) : Prop :=
  ∀ field value, maneuver.action.number? = some (field, value) → Scalar.isFinite value = true

/-- The pixels of a drive: so many inches or millimetres, five to a pixel, or 100 pixels. -/
def pixels : Option R → Option DistanceUnit → R
  | some distance, some .mm => distance / Scalar.ofNat 5
  | some distance, some .inches | some distance, none => distance
  | none, _ => Scalar.ofNat 100

def sign : DriveDirection → R
  | .forward => Scalar.one
  | .reverse => -Scalar.one

def lead (scale : R) (robot : Robot R) : Maneuver R → Robot R
  | drive direction distance unit =>
    let way := pixels distance unit * scale * sign direction
    let facing := Scalar.facing robot.rotation
    { robot with x := robot.x + facing.1 * way, y := robot.y + facing.2 * way }
  | turn .right degrees =>
    { robot with rotation := robot.rotation + degrees.getD (Scalar.ofNat 90) }
  | turn .left degrees =>
    { robot with rotation := robot.rotation + -degrees.getD (Scalar.ofNat 90) }
  | turnToHeading value | turnToRotation value | setDriveRotation value =>
    { robot with rotation := value.getD Scalar.zero }

inductive Asks (goal : Robot R) (robot : Robot R) : Deed R → Prop where
  | move {target : MotionTarget R} {duration : R}
      (hgoal : robot.place (target.resolve robot.pose) = goal) :
    Asks goal robot (.move target duration)
  | place {target : MotionTarget R} (hgoal : robot.place (target.resolve robot.pose) = goal) :
    Asks goal robot (.place target)

variable {maneuver : Maneuver R}

theorem finite_getD (op field : String) {given : Option R} {default : R}
    (hdefault : Scalar.isFinite default = true)
    (hgiven : ∀ value, given = some value → Scalar.isFinite value = true) :
    Machine.finite op field (given.getD default) = .ok (given.getD default) := by
  apply finite_eq_ok_iff.mpr
  cases given with
  | none => exact ⟨hdefault, rfl⟩
  | some value => exact ⟨hgiven value rfl, rfl⟩

theorem IsFinite.of_number? {field : String} {given : Option R} (h : maneuver.IsFinite)
    (hnumber : maneuver.action.number? = given.map (field, ·)) (value : R)
    (hvalue : given = some value) : Scalar.isFinite value = true := by
  apply h field value
  rw [hnumber, hvalue]
  rfl

theorem exists_asks [Tuning.Valid R] (h : maneuver.IsFinite) (robot : Robot R)
    (around : Surroundings R) :
    ∃ deed, maneuver.action.deed robot around = .ok deed ∧
      Asks (maneuver.lead around.scale robot) robot deed := by
  cases maneuver with
  | drive direction distance unit =>
    have hsign : Machine.driveSign direction = (sign direction : R) := by
      cases direction <;> rfl
    cases distance with
    | none =>
      refine ⟨_, rfl, .move ?_⟩
      rw [hsign]
      rfl
    | some distance =>
      have hpixels : Machine.drivePixels distance unit = pixels (some distance) unit := by
        rcases unit with _ | (_ | _) <;> rfl
      have hfinite : Machine.finite "drive" "distance" distance = .ok distance :=
        finite_eq_ok_iff.mpr ⟨h.of_number? rfl distance rfl, rfl⟩
      refine ⟨_, congrArg (Except.map _) hfinite, .move ?_⟩
      rw [hsign, hpixels]
      rfl
  | turn direction degrees =>
    have hfinite := finite_getD "turn" "degrees" Tuning.Valid.turn_finite
      (h.of_number? rfl)
    cases direction with
    | left => exact ⟨_, congrArg (Except.map _) hfinite, .move rfl⟩
    | right => exact ⟨_, congrArg (Except.map _) hfinite, .move rfl⟩
  | turnToHeading heading =>
    have hfinite := finite_getD "turnToHeading" "heading" Tuning.Valid.zero_finite
      (h.of_number? rfl)
    exact ⟨_, congrArg (Except.map _) hfinite, .move rfl⟩
  | turnToRotation rotation =>
    have hfinite := finite_getD "turnToRotation" "rotation" Tuning.Valid.zero_finite
      (h.of_number? rfl)
    exact ⟨_, congrArg (Except.map _) hfinite, .move rfl⟩
  | setDriveRotation rotation =>
    have hfinite := finite_getD "setDriveRotation" "rotation" Tuning.Valid.zero_finite
      (h.of_number? rfl)
    exact ⟨_, congrArg (Except.map _) hfinite, .place rfl⟩

inductive Led (goal : Robot R) : Outcome R → Prop where
  | moves {rig : Rig R} (hcancelled : rig.cancelled = false) (hgoal : rig.settled.robot = goal) :
    Led goal (.moves rig)
  | goesOn {rig : Rig R} (hcancelled : rig.cancelled = false) (hmotion : rig.motion = none)
      (hgoal : rig.robot = goal) : Led goal (.goesOn rig none)

end Maneuver

variable [Scalar R]

namespace Rig

variable {rig : Rig R}

theorem exists_startMotion? (hmotion : rig.motion = none) (hcancelled : rig.cancelled = false)
    (target : MotionTarget R) (duration : R) :
    ∃ rig', rig.startMotion? target duration = some rig' ∧ rig'.cancelled = false ∧
      rig'.settled.robot = rig.robot.place (target.resolve rig.robot.pose) := by
  unfold startMotion? isMoving
  rw [hmotion, hcancelled, Option.isSome_none, if_neg Bool.false_ne_true,
    if_neg Bool.false_ne_true]
  dsimp only
  split
  . exact ⟨_, rfl, rfl, rfl⟩
  . exact ⟨_, rfl, rfl, rfl⟩

theorem exists_led [Tuning.Valid R] {maneuver : Maneuver R} (h : maneuver.IsFinite)
    (hmotion : rig.motion = none) (hcancelled : rig.cancelled = false) (around : Surroundings R) :
    ∃ outcome, rig.perform around maneuver.action = .ok outcome ∧
      Maneuver.Led (maneuver.lead around.scale rig.robot) outcome := by
  obtain ⟨deed, hdeed, hasks⟩ := maneuver.exists_asks h rig.robot around
  unfold perform
  rw [hdeed]
  cases hasks with
  | move hgoal =>
    next target duration =>
      obtain ⟨rig', hstart, hcancelled', hrobot⟩ :=
        exists_startMotion? hmotion hcancelled target duration
      refine ⟨.moves rig', ?_, .moves hcancelled' (hrobot.trans hgoal)⟩
      simp only [bind, Except.bind, carryOut, hstart]
  | place hgoal =>
    next target =>
      obtain ⟨rig', hstart, hcancelled', hrobot⟩ :=
        exists_startMotion? hmotion hcancelled target Scalar.zero
      have hmotion' := startMotion?_zero hmotion hstart
      rw [settled_of_motion hmotion'] at hrobot
      refine ⟨.goesOn rig' none, ?_, .goesOn hcancelled' hmotion' (hrobot.trans hgoal)⟩
      simp only [bind, Except.bind, carryOut, hstart]

end Rig

namespace Walker

/--
A walk through maneuvers between two timesteps: with its motion at an end, what is left leads to the
goal. The walk that has nothing left to do is there.
-/
inductive Bound (scale : R) (goal : Robot R) (w : Walker R) : Prop where
  | underway {maneuvers : List (Maneuver R)} (hcancelled : w.cancelled = false)
      (hfinite : ∀ maneuver ∈ maneuvers, maneuver.IsFinite)
      (htasks : w.tasks = [.block (maneuvers.map Maneuver.op)])
      (hstill : w.motion = none ∧ w.pause = .nothing ∨ w.pause = .motion)
      (hgoal : maneuvers.foldl (Maneuver.lead scale) w.toRig.settled.robot = goal)
  | arrived (hcancelled : w.cancelled = false) (htasks : w.tasks = []) (hmotion : w.motion = none)
      (hgoal : w.robot = goal)

structure Advanced (scale : R) (goal : Robot R)
    (advanced : Walker R × Except (ExecutionError R) Progress) : Prop where
  bound : advanced.1.Bound scale goal
  result : advanced.2 = .ok .pending ∨ advanced.2 = .ok .finished ∧ advanced.1.robot = goal

variable {w : Walker R} {around : Surroundings R} {goal : Robot R}

theorem Bound.animate {scale : R} (h : w.Bound scale goal) (dt : R) :
    (w.handle (.animate dt)).Bound scale goal := by
  cases h with
  | underway hcancelled hfinite htasks hstill hgoal =>
    refine .underway ((w.toRig.cancelled_step dt).trans hcancelled) hfinite htasks
      (hstill.imp_left (And.imp_left Rig.motion_step)) ?_
    rw [← hgoal]
    exact congrArg (fun rig => List.foldl _ rig.robot _) (Rig.settled_step hcancelled dt)
  | arrived hcancelled htasks hmotion hgoal =>
    have hrig : (w.toRig.step dt).2 = w.toRig := Rig.step_of_motion hmotion dt
    unfold handle
    dsimp only
    rw [hrig]
    exact .arrived hcancelled htasks hmotion hgoal

theorem advance_of_serve_some (hcancelled : w.cancelled = false) (hempty : w.tasks.isEmpty = false)
    {dt : R} {pause : Pause R}
    (hserve : { w with console := #[] }.serve around dt = .ok (some pause)) :
    w.advance around dt = ({ w with console := #[], pause }, .ok .pending) := by
  unfold advance
  dsimp only
  rw [hcancelled, hempty, hserve]
  rfl

theorem advance_of_serve_none (hcancelled : w.cancelled = false) (hempty : w.tasks.isEmpty = false)
    {dt : R} (hserve : { w with console := #[] }.serve around dt = .ok none) :
    w.advance around dt = { w with console := #[], pause := .nothing }.run around := by
  unfold advance
  dsimp only
  rw [hcancelled, hempty, hserve]
  rfl

variable [Tuning.Valid R]

theorem advanced_run {maneuvers : List (Maneuver R)} (hcancelled : w.cancelled = false)
    (hfinite : ∀ maneuver ∈ maneuvers, maneuver.IsFinite)
    (htasks : w.tasks = [.block (maneuvers.map Maneuver.op)]) (hmotion : w.motion = none)
    (hpause : w.pause = .nothing)
    (hgoal : maneuvers.foldl (Maneuver.lead around.scale) w.robot = goal) :
    Advanced around.scale goal (w.run around) := by
  induction maneuvers generalizing w with
  | nil =>
    have hleaves : w.step around = ({ w with tasks := [] }, none) := by
      unfold step
      rw [htasks]
      rfl
    rw [run_of_next hleaves, run_of_halt rfl]
    exact ⟨.arrived hcancelled rfl hmotion hgoal, .inr ⟨rfl, hgoal⟩⟩
  | cons maneuver maneuvers ih =>
    have hlater := fun later hmem => hfinite later (List.mem_cons_of_mem _ hmem)
    let rest : List (Task R) := [.block (maneuvers.map Maneuver.op)]
    have hstep : w.step around = w.proceed around maneuver.op rest := by
      unfold step
      rw [htasks]
      rfl
    obtain ⟨outcome, hperform, hled⟩ :=
      Rig.exists_led (hfinite maneuver List.mem_cons_self) hmotion hcancelled around
    have hexec : { w with tasks := rest }.exec around maneuver.op =
        .ok ({ w with tasks := rest }.take outcome) :=
      congrArg (Except.map _) hperform
    unfold proceed at hstep
    dsimp only at hstep
    rw [hexec] at hstep
    cases hled with
    | moves hcancelled' hgoal' =>
      rw [run_of_halt hstep]
      refine ⟨.underway hcancelled' hlater rfl (.inr rfl) ?_, .inl rfl⟩
      rw [← hgoal, List.foldl_cons, ← hgoal']
    | goesOn hcancelled' hmotion' hgoal' =>
      rw [run_of_next hstep]
      refine ih hcancelled' hlater rfl hmotion' hpause ?_
      rw [← hgoal, List.foldl_cons, ← hgoal']

theorem Bound.advance (around : Surroundings R) (h : w.Bound around.scale goal) (dt : R) :
    Advanced around.scale goal (w.advance around dt) := by
  cases h with
  | arrived hcancelled htasks hmotion hgoal =>
    have hempty : w.tasks.isEmpty = true := List.isEmpty_iff.mpr htasks
    have hadvance : w.advance around dt = ({ w with console := #[] }, .ok .finished) := by
      unfold Walker.advance
      dsimp only
      rw [hcancelled, hempty]
      rfl
    rw [hadvance]
    exact ⟨.arrived hcancelled htasks hmotion hgoal, .inr ⟨rfl, hgoal⟩⟩
  | underway hcancelled hfinite htasks hstill hgoal =>
    have hempty : w.tasks.isEmpty = false := by
      rw [htasks]
      rfl
    have hgoesOn (hmotion : w.motion = none)
        (hserve : { w with console := #[] }.serve around dt = .ok none) :
        Advanced around.scale goal (w.advance around dt) := by
      rw [Rig.settled_of_motion hmotion] at hgoal
      rw [advance_of_serve_none hcancelled hempty hserve]
      exact advanced_run hcancelled hfinite htasks hmotion rfl hgoal
    rcases hstill with ⟨hmotion, hpause⟩ | hpause
    . apply hgoesOn hmotion
      unfold serve
      dsimp only
      rw [hpause]
    . have hserve : { w with console := #[] }.serve around dt =
          .ok (if w.toRig.isMoving then some .motion else none) := by
        unfold serve
        dsimp only
        rw [hpause]
      cases hmotion : w.motion with
      | none =>
        have hmoving : w.toRig.isMoving = false := congrArg Option.isSome hmotion
        rw [hmoving] at hserve
        exact hgoesOn hmotion hserve
      | some motion =>
        have hmoving : w.toRig.isMoving = true := congrArg Option.isSome hmotion
        rw [hmoving] at hserve
        rw [advance_of_serve_some hcancelled hempty hserve]
        exact ⟨.underway hcancelled hfinite htasks (.inr rfl) hgoal, .inl rfl⟩

end Walker

end ReefRover
