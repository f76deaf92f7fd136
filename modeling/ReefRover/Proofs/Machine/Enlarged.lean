import ReefRover.Proofs.Machine.Kept
import ReefRover.Proofs.Program.Placeless
import ReefRover.Proofs.Scalar.Stretch
import ReefRover.Proofs.Walk.Simulation

/-!
This module contains the proof that programs do the same on the enlarged layout, only larger: where
the machine on the one layout goes, the machine on the other goes as well, with all places stretched
and everything else the same.
-/

namespace ReefRover

open Scalar

variable {R : Type} [Scalar R]

/-! ### Motions -/

def Point.enlarged (p : Point R) : Point R :=
  { x := stretched p.x, y := stretched p.y }

def Pose.enlarged (pose : Pose R) : Pose R :=
  { pose with x := stretched pose.x, y := stretched pose.y }

def MotionTarget.enlarged (target : MotionTarget R) : MotionTarget R :=
  { target with x := target.x.map stretched, y := target.y.map stretched }

def Motion.enlarged (motion : Motion R) : Motion R :=
  { motion with start := motion.start.enlarged, target := motion.target.enlarged }

def Robot.enlarged (robot : Robot R) : Robot R :=
  { robot with x := stretched robot.x, y := stretched robot.y }

def Rig.enlarged (rig : Rig R) : Rig R :=
  { rig with robot := rig.robot.enlarged, motion := rig.motion.map Motion.enlarged }

theorem MotionTarget.resolve_enlarged (target : MotionTarget R) (start : Pose R) :
    target.enlarged.resolve start.enlarged = (target.resolve start).enlarged := by
  rcases target with ⟨x, y, rotation⟩
  cases x <;> cases y <;> rfl

theorem Rig.isMoving_enlarged (rig : Rig R) : rig.enlarged.isMoving = rig.isMoving := by
  unfold isMoving enlarged
  exact Option.isSome_map

theorem Rig.startMotion?_enlarged (rig : Rig R) (target : MotionTarget R) (duration : R) :
    rig.enlarged.startMotion? target.enlarged duration =
      (rig.startMotion? target duration).map Rig.enlarged := by
  have hpose : rig.enlarged.robot.pose = rig.robot.pose.enlarged := rfl
  have hcancelled : rig.enlarged.cancelled = rig.cancelled := rfl
  unfold startMotion?
  dsimp only
  rw [isMoving_enlarged, hpose, hcancelled, MotionTarget.resolve_enlarged]
  split
  . rfl
  . split
    . rfl
    . split
      . rfl
      . rfl

def Deed.enlarged : Deed R → Deed R
  | .move target duration => .move target.enlarged duration
  | .place target => .place target.enlarged
  | .dropMotion => .dropMotion
  | .setRobot robot => .setRobot robot.enlarged
  | .pause seconds => .pause seconds
  | .write line => .write line

def Outcome.enlarged : Outcome R → Outcome R
  | .goesOn rig line => .goesOn rig.enlarged line
  | .moves rig => .moves rig.enlarged
  | .sleeps seconds => .sleeps seconds

theorem Rig.carryOut_enlarged (rig : Rig R) (op : String) (deed : Deed R) :
    rig.enlarged.carryOut op deed.enlarged = (rig.carryOut op deed).map Outcome.enlarged := by
  cases deed with
  | move target duration =>
    unfold carryOut Deed.enlarged
    dsimp only
    rw [startMotion?_enlarged]
    cases rig.startMotion? target duration with
    | none => rfl
    | some rig => rfl
  | place target =>
    unfold carryOut Deed.enlarged
    dsimp only
    rw [startMotion?_enlarged]
    cases rig.startMotion? target zero with
    | none => rfl
    | some rig => rfl
  | dropMotion =>
    unfold carryOut Deed.enlarged
    dsimp only
    rw [isMoving_enlarged]
    rfl
  | setRobot | pause | write => rfl

theorem map_finite_enlarged {op field : String} {value : R} {deed deed' : R → Deed R}
    (h : ∀ v, deed' v = (deed v).enlarged) :
    (Machine.finite op field value).map deed' =
      ((Machine.finite op field value).map deed).map Deed.enlarged := by
  cases Machine.finite op field value with
  | error e => rfl
  | ok v => exact congrArg Except.ok (h v)

/-! ### Machines -/

def Layout.around (layout : Layout) (clock : R) : Surroundings R :=
  { scale := layout.factor, clock }

namespace Machine

def enlarged (m : Machine R) : Machine R :=
  { m with toRig := m.toRig.enlarged }

theorem take_enlarged (m : Machine R) (outcome : Outcome R) :
    m.enlarged.take outcome.enlarged = ((m.take outcome).1, (m.take outcome).2.enlarged) := by
  cases outcome with
  | goesOn | moves | sleeps => rfl

theorem test_enlarged {m : Machine R} (h : m.script.Placeless) (clock : R) (condition : CondId)
    (op : String) :
    m.enlarged.test (Layout.enlarged.around clock) condition op =
      m.test (Layout.normal.around clock) condition op := by
  have hsame : (m.robot.readings clock).SameButPlace (m.enlarged.robot.readings clock) :=
    ⟨rfl, rfl, rfl⟩
  have htest := Expr.test_eq_of_placeless (h condition) hsame
  exact congrArg (Except.mapError (ExecutionError.condition op)) htest

theorem keepsLooping_enlarged {m : Machine R} (h : m.script.Placeless) (clock : R)
    (kind : FrameKind) :
    m.enlarged.keepsLooping (Layout.enlarged.around clock) kind =
      m.keepsLooping (Layout.normal.around clock) kind := by
  unfold keepsLooping
  split
  . rw [test_enlarged h]
  . rw [test_enlarged h]
  . rfl
  . rfl
  . rfl

theorem serve_enlarged {m : Machine R} (h : m.script.Placeless) (clock dt : R) :
    m.enlarged.serve (Layout.enlarged.around clock) dt =
      m.serve (Layout.normal.around clock) dt := by
  have hwait : m.enlarged.wait = m.wait := rfl
  have hmoving : m.enlarged.toRig.isMoving = m.toRig.isMoving := m.toRig.isMoving_enlarged
  unfold serve
  rw [hwait, hmoving]
  split
  . rfl
  . rfl
  . rfl
  . rfl
  . rw [test_enlarged h]

def enlargedFlow (result : Flow × Machine R) : Flow × Machine R :=
  (result.1, result.2.enlarged)

theorem bind_enlarged {α : Type} {x : Except (ExecutionError R) α}
    {f g : α → Except (ExecutionError R) (Flow × Machine R)}
    (h : ∀ a, g a = (f a).map enlargedFlow) : x >>= g = (x >>= f).map enlargedFlow := by
  cases x with
  | error e => rfl
  | ok a => exact h a

end Machine

def Step.enlarged : Step R → Step R
  | .next m => .next m.enlarged
  | .halt m result => .halt m.enlarged result

theorem Machine.endBody_enlarged (m : Machine R) (frame : Frame) (below : List Frame) :
    m.enlarged.endBody frame below = (m.endBody frame below).enlarged := by
  unfold endBody
  split
  . rfl
  . split
    . rfl
    . rfl
  . rfl
  . rfl
  . rfl

/-! ### Lengths -/

variable [Stretches R]

theorem Pose.beq_enlarged (pose before : Pose R) :
    (pose.enlarged == before.enlarged) = (pose == before) := by
  have hbeq (p q : Pose R) : (p == q) = (p.x == q.x && (p.y == q.y && p.rotation == q.rotation)) :=
    rfl
  rw [hbeq, hbeq]
  unfold enlarged
  dsimp only
  rw [Stretches.beq_stretched, Stretches.beq_stretched]

theorem Motion.poseAt_enlarged (motion : Motion R) (eased : R) :
    motion.enlarged.poseAt eased = (motion.poseAt eased).enlarged := by
  have hbetween (a b : R) :
      stretched a + (stretched b - stretched a) * eased = stretched (a + (b - a) * eased) := by
    rw [Stretches.stretched_add, Stretches.stretched_mul, Stretches.stretched_sub]
  unfold poseAt enlarged Pose.enlarged
  dsimp only
  rw [hbetween, hbetween]

theorem Rig.step_enlarged (rig : Rig R) (dt : R) :
    rig.enlarged.step dt = ((rig.step dt).1, (rig.step dt).2.enlarged) := by
  rcases rig with ⟨robot, motion, cancelled⟩
  cases motion with
  | none => rfl
  | some motion =>
    unfold step enlarged Motion.enlarged
    dsimp only [Option.map]
    split
    . rfl
    . split
      . rfl
      . have hpose := Motion.poseAt_enlarged { motion with elapsed := motion.elapsed + dt }
        unfold Motion.enlarged at hpose
        rw [hpose]
        rfl

/-! ### Blocks -/

theorem Point.toward_enlarged (p : Point R) (direction : R × R) (pixels sign : R) :
    p.enlarged.toward direction (pixels * Layout.enlarged.factor * sign) =
      (p.toward direction (pixels * Layout.normal.factor * sign)).enlarged := by
  have hlength : pixels * Layout.enlarged.factor * sign = stretched (pixels * sign) := by
    rw [Stretches.stretched_mul]
    rfl
  rw [hlength, Stretches.mul_normal]
  unfold toward enlarged
  dsimp only
  rw [Stretches.stretched_add, Stretches.stretched_add, Stretches.stretched_mul' direction.1,
    Stretches.stretched_mul' direction.2]

theorem Action.deed_enlarged (action : Action R) (robot : Robot R) (clock : R) :
    action.deed robot.enlarged (Layout.enlarged.around clock) =
      (action.deed robot (Layout.normal.around clock)).map Deed.enlarged := by
  cases action with
  | drive direction distance unit =>
    have htarget (pixels : R) :
        MotionTarget.toPosition (robot.enlarged.position.toward (facing robot.rotation)
          (pixels * Layout.enlarged.factor * Machine.driveSign direction)) =
          (MotionTarget.toPosition (robot.position.toward (facing robot.rotation)
            (pixels * Layout.normal.factor * Machine.driveSign direction))).enlarged :=
      congrArg MotionTarget.toPosition (robot.position.toward_enlarged _ pixels _)
    cases distance with
    | none => exact congrArg (fun target => Except.ok (Deed.move target _)) (htarget _)
    | some d =>
      exact map_finite_enlarged fun v => congrArg (fun target => Deed.move target _) (htarget _)
  | turn direction degrees =>
    apply map_finite_enlarged
    intro v
    cases direction with
    | left => rfl
    | right => rfl
  | pen action color => cases action <;> rfl
  | magnet action => cases action <;> rfl
  | stopDriving | print | clearConsole => rfl
  | turnToHeading | turnToRotation | setDriveVelocity | setTurnVelocity | setDriveHeading
  | setDriveRotation | setDriveTimeout | wait => exact map_finite_enlarged fun v => rfl

theorem Rig.perform_enlarged (rig : Rig R) (action : Action R) (clock : R) :
    rig.enlarged.perform (Layout.enlarged.around clock) action =
      (rig.perform (Layout.normal.around clock) action).map Outcome.enlarged := by
  have hdeed : action.deed rig.enlarged.robot (Layout.enlarged.around clock) =
      (action.deed rig.robot (Layout.normal.around clock)).map Deed.enlarged :=
    action.deed_enlarged rig.robot clock
  unfold perform
  rw [hdeed]
  cases action.deed rig.robot (Layout.normal.around clock) with
  | error e => rfl
  | ok deed => exact rig.carryOut_enlarged action.name deed

/-! ### Steps -/

namespace Machine

variable {m : Machine R}

theorem act_enlarged (m : Machine R) (clock : R) (action : Action R) :
    m.enlarged.act (Layout.enlarged.around clock) action =
      (m.act (Layout.normal.around clock) action).map enlargedFlow := by
  have hperform : m.enlarged.toRig.perform (Layout.enlarged.around clock) action =
      (m.toRig.perform (Layout.normal.around clock) action).map Outcome.enlarged :=
    m.toRig.perform_enlarged action clock
  rw [act_eq, act_eq, hperform]
  cases m.toRig.perform (Layout.normal.around clock) action with
  | error e => rfl
  | ok outcome => exact congrArg Except.ok (m.take_enlarged outcome)

theorem exec_enlarged (h : m.script.Placeless) (clock : R) (instr : Instr R) :
    m.enlarged.exec (Layout.enlarged.around clock) instr =
      (m.exec (Layout.normal.around clock) instr).map enlargedFlow := by
  cases instr with
  | action action => exact m.act_enlarged clock action
  | waitUntil condition | ifThen condition | ifThenElse condition =>
    unfold exec
    dsimp only
    rw [test_enlarged h]
    apply bind_enlarged
    intro holds
    cases holds with
    | true => rfl
    | false => rfl
  | ifElseIfElse condition yes elseIfCondition elseIf otherwise =>
    unfold exec
    dsimp only
    rw [test_enlarged h, test_enlarged h]
    apply bind_enlarged
    intro first
    cases first with
    | true => rfl
    | false =>
      apply bind_enlarged
      intro second
      rfl
  | repeatTimes times body =>
    apply bind_enlarged
    intro times
    dsimp only
    split
    . rfl
    . rfl
  | breakLoop =>
    have hframes : m.enlarged.frames = m.frames := rfl
    unfold exec
    dsimp only
    rw [hframes]
    split
    . rfl
    . rfl
  | forever | repeatUntil | whileDo | stopProject => rfl

theorem step_enlarged (h : m.script.Placeless) (clock : R) :
    m.enlarged.step (Layout.enlarged.around clock) =
      (m.step (Layout.normal.around clock)).enlarged := by
  cases hframes : m.frames with
  | nil =>
    have hframes' : m.enlarged.frames = [] := hframes
    unfold step
    rw [hframes, hframes']
    rfl
  | cons frame below =>
    have hframes' : m.enlarged.frames = frame :: below := hframes
    cases hcheck : frame.checkPending with
    | true =>
      rw [step_of_checkPending _ hframes hcheck, step_of_checkPending _ hframes' hcheck,
        keepsLooping_enlarged h]
      split
      . rfl
      . rfl
      . rfl
    | false =>
      cases hinstr : m.script.instr? frame.slot with
      | none =>
        have hget : (m.script.body frame.body)[frame.next]? = none := hinstr
        have hget' : (m.enlarged.script.body frame.body)[frame.next]? = none := hinstr
        unfold step
        rw [hframes, hframes']
        dsimp only
        rw [hcheck, if_neg Bool.false_ne_true, if_neg Bool.false_ne_true, hget, hget']
        exact m.endBody_enlarged frame below
      | some instr =>
        -- the frame has moved on when the instruction is executed
        let entered : Machine R := { m with frames := frame.movedOn :: below }
        have hentered : { m.enlarged with frames := frame.movedOn :: below } = entered.enlarged :=
          rfl
        have hexec := exec_enlarged (m := entered) h clock instr
        rw [step_of_instr? _ hframes hcheck hinstr,
          step_of_instr? (m := m.enlarged) _ hframes' hcheck hinstr, hentered, hexec]
        cases entered.exec (Layout.normal.around clock) instr with
        | error e => cases e <;> rfl
        | ok result =>
          rcases result with ⟨flow, m'⟩
          cases flow <;> rfl

/-! ### Timesteps -/

theorem run_enlarged (h : m.script.Placeless) (clock : R) (budget : Nat) :
    m.enlarged.run (Layout.enlarged.around clock) budget =
      ((m.run (Layout.normal.around clock) budget).1.enlarged,
        (m.run (Layout.normal.around clock) budget).2) := by
  induction budget generalizing m with
  | zero => rfl
  | succ budget ih =>
    have hscript := m.script_step (Layout.normal.around clock)
    unfold run
    rw [step_enlarged h]
    cases hstep : m.step (Layout.normal.around clock) with
    | halt m' result => rfl
    | next m' =>
      rw [hstep] at hscript
      have hscript' : m'.script.Placeless := by
        rw [show m'.script = m.script from hscript]
        exact h
      exact ih hscript'

theorem advance_enlarged (m : Machine R) (h : m.script.Placeless) (clock dt : R) :
    m.enlarged.advance (Layout.enlarged.around clock) dt =
      ((m.advance (Layout.normal.around clock) dt).1.enlarged,
        (m.advance (Layout.normal.around clock) dt).2) := by
  have hsilent : { m.enlarged with console := #[] } = enlarged { m with console := #[] } := rfl
  have hserve := serve_enlarged (m := { m with console := #[] }) h clock dt
  have hcancelled : m.enlarged.cancelled = m.cancelled := rfl
  have hdone : isDone (enlarged { m with console := #[] }) = isDone { m with console := #[] } :=
    rfl
  unfold advance
  simp only [hsilent, hserve, hcancelled, hdone]
  split
  . rfl
  . split
    . rfl
    . cases serve { m with console := #[] } (Layout.normal.around clock) dt with
      | error e => rfl
      | ok wait? =>
        cases wait? with
        | some wait => rfl
        | none => exact run_enlarged (m := { m with console := #[], wait := .nothing }) h clock _

end Machine

end ReefRover
