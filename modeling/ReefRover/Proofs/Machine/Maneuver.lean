import ReefRover.Proofs.Machine.Journey
import ReefRover.Proofs.Scalar.Exact
import ReefRover.Proofs.Walk.Maneuver

/-!
This module contains the proof that maneuvers compose: a program of nothing but maneuvers ends where
they lead one after the other, however time is cut into timesteps. In exact arithmetic a drive or a
turn and its opposite lead back.
-/

namespace ReefRover

variable {R : Type}

/-! The facts about real numbers, before they get the operations of a `Scalar`. -/

section Reals

theorem forth_and_back (x facing way : ℝ) :
    x + facing * (way * (1 : ℕ)) + facing * (way * -(1 : ℕ)) = x := by
  ring

theorem right_and_left (rotation degrees : ℝ) : rotation + degrees + -degrees = rotation :=
  add_neg_cancel_right rotation degrees

end Reals

namespace Maneuver

theorem foldl_without [Scalar R] {scale : R} {inner : List (Maneuver R)}
    (h : ∀ robot, inner.foldl (lead scale) robot = robot) (robot : Robot R)
    (before after : List (Maneuver R)) :
    (before ++ inner ++ after).foldl (lead scale) robot =
      (before ++ after).foldl (lead scale) robot := by
  rw [List.foldl_append, List.foldl_append, h, List.foldl_append]

variable [Exact]

theorem lead_forth_and_back (scale : ℝ) (robot : Robot ℝ) (distance : Option ℝ)
    (unit : Option DistanceUnit) :
    [drive .forward distance unit, drive .reverse distance unit].foldl (lead scale) robot =
      robot := by
  let way := pixels distance unit * scale
  have hx := forth_and_back robot.x (Scalar.facing robot.rotation).1 way
  have hy := forth_and_back robot.y (Scalar.facing robot.rotation).2 way
  exact congrArg₂ (fun x y => { robot with x, y }) hx hy

theorem lead_right_and_left (scale : ℝ) (robot : Robot ℝ) (degrees : Option ℝ) :
    [turn .right degrees, turn .left degrees].foldl (lead scale) robot = robot := by
  have hrotation := right_and_left robot.rotation (degrees.getD (Scalar.ofNat 90))
  exact congrArg (fun rotation => { robot with rotation }) hrotation

end Maneuver

namespace Machine

variable [Scalar R]

def ticked (m : Machine R) (scale : R) (ticks : List (Timestep R)) : Machine R :=
  ticks.foldl (fun m t => (m.tick ⟨scale, t.clock⟩ t.dt).1) m

structure Bound (m : Machine R) (p : Program R) (scale : R) (goal : Robot R) : Prop where
  runs : m.Runs p
  walker : m.walker.Bound scale goal

theorem bound_launch {maneuvers : List (Maneuver R)}
    (hfinite : ∀ maneuver ∈ maneuvers, maneuver.IsFinite) (robot : Robot R) (scale : R) :
    let p := maneuvers.map Maneuver.op
    (launch (Script.ofProgram p) robot).Bound p scale
      (maneuvers.foldl (Maneuver.lead scale) robot) where
  runs := runs_launch _ robot
  walker := by
    rw [walker_launch]
    exact .underway rfl hfinite rfl (.inl ⟨rfl, rfl⟩) rfl

variable [Tuning.Valid R] {m : Machine R} {p : Program R} {scale : R} {goal : Robot R}

theorem Bound.advanced_tick (h : m.Bound p scale goal) (t : Timestep R) :
    let ticked := m.tick ⟨scale, t.clock⟩ t.dt
    Walker.Advanced scale goal (ticked.1.walker, ticked.2) := by
  let around : Surroundings R := ⟨scale, t.clock⟩
  have hadvance := (h.runs.handle (.animate t.dt)).advance_walker around t.dt
  have hanimated := h.walker.animate t.dt
  rw [← h.runs.handle_walker] at hanimated
  have hadvanced := hanimated.advance around t.dt
  rw [← hadvance] at hadvanced
  exact hadvanced

theorem Bound.tick (h : m.Bound p scale goal) (t : Timestep R) :
    (m.tick ⟨scale, t.clock⟩ t.dt).1.Bound p scale goal :=
  ⟨h.runs.tick _ _, (h.advanced_tick t).bound⟩

theorem Bound.ticked (h : m.Bound p scale goal) (ticks : List (Timestep R)) :
    (m.ticked scale ticks).Bound p scale goal := by
  induction ticks generalizing m with
  | nil => exact h
  | cons t ticks ih => exact ih (h.tick t)

/--
A program of maneuvers is never refused, and when it has finished, the robot is where the maneuvers
lead one after the other, in every number of its state. In exact arithmetic a drive forth and back,
and a turn to the right and to the left, can be left out.
-/
theorem maneuvers_compose {maneuvers : List (Maneuver R)}
    (hfinite : ∀ maneuver ∈ maneuvers, maneuver.IsFinite) (robot : Robot R) (scale : R)
    (ticks : List (Timestep R)) (t : Timestep R) :
    let m := launch (Script.ofProgram (maneuvers.map Maneuver.op)) robot
    let ended := (m.ticked scale ticks).tick ⟨scale, t.clock⟩ t.dt
    (ended.2 = .ok .pending ∨ ended.2 = .ok .finished) ∧
      (ended.2 = .ok .finished →
        ended.1.robot = maneuvers.foldl (Maneuver.lead scale) robot) ∧
      ∀ [Exact] (scale : ℝ) (robot : Robot ℝ) (before after : List (Maneuver ℝ)) (value : Option ℝ)
        (unit : Option DistanceUnit),
        let drives : List (Maneuver ℝ) := [.drive .forward value unit, .drive .reverse value unit]
        let turns : List (Maneuver ℝ) := [.turn .right value, .turn .left value]
        let lead := List.foldl (Maneuver.lead scale) robot
        lead (before ++ drives ++ after) = lead (before ++ after) ∧
          lead (before ++ turns ++ after) = lead (before ++ after) := by
  intro m ended
  have hadvanced := ((bound_launch hfinite robot scale).ticked ticks).advanced_tick t
  refine ⟨?_, ?_, ?_⟩
  . exact hadvanced.result.imp_right And.left
  . intro hended
    rcases hadvanced.result with hpending | ⟨-, hgoal⟩
    . have hresult : ended.2 = .ok .pending := hpending
      rw [hended] at hresult
      cases hresult
    . exact hgoal
  . intro _ scale robot before after value unit
    have hdrives := fun robot => Maneuver.lead_forth_and_back scale robot value unit
    have hturns := fun robot => Maneuver.lead_right_and_left scale robot value
    exact ⟨Maneuver.foldl_without hdrives robot before after,
      Maneuver.foldl_without hturns robot before after⟩

theorem maneuvers_compose_of_corner :
    let maneuvers : List (Maneuver Float32) :=
      [.setDriveRotation none, .drive .forward (some 50) (some .mm), .turn .right none,
        .drive .reverse none none]
    let m := launch (Script.ofProgram (maneuvers.map Maneuver.op)) (.atRest ⟨200, 200⟩)
    let ended := (m.ticked 1 [⟨1, 1⟩, ⟨1, 2⟩, ⟨1, 3⟩]).tick ⟨1, 4⟩ 1
    ended.2 = .ok .finished ∧ ended.1.robot =
      { (Robot.atRest ⟨200, 200⟩ : Robot Float32) with x := 100, y := 190, rotation := 90 } := by
  intro maneuvers m ended
  have hfinite : ∀ maneuver ∈ maneuvers, maneuver.IsFinite := by
    have hfifty : Scalar.isFinite (50 : Float32) = true := by decide
    simp [maneuvers, Maneuver.IsFinite, Maneuver.action, Action.number?, hfifty]
  have hended : ended.2 = .ok .finished := by decide +kernel
  obtain ⟨-, hrobot, -⟩ := maneuvers_compose hfinite (.atRest ⟨200, 200⟩) 1
    [⟨1, 1⟩, ⟨1, 2⟩, ⟨1, 3⟩] ⟨1, 4⟩
  refine ⟨hended, (hrobot hended).trans ?_⟩
  decide +kernel

end Machine

end ReefRover
