import ReefRover.Proofs.Machine.Settle
import ReefRover.Proofs.Machine.Writers
import ReefRover.Proofs.Ocean.Growth
import ReefRover.Proofs.Run.Clear
import ReefRover.Proofs.Run.Refusal
import ReefRover.Proofs.Scalar.Durations

/-!
This module contains from where a timestep looks at the trash. Programs do not move the robot, so
all looks of a timestep are from where the robot is at its end. A program that turns the robot has
the trash looked at even if the robot makes no motion.
-/

namespace ReefRover

variable {R : Type} [Scalar R]

structure Ocean.Seen (ocean : Ocean R) (robot : Point R) (ocean' : Ocean R) : Prop where
  layout_eq : ocean'.layout = ocean.layout
  trash_eq : ocean'.trash = ocean.trash ∨
    ocean'.trash = ocean.trash.map (TrashItem.gathered robot ocean.layout.factor)

theorem Ocean.Seen.observe {ocean ocean' : Ocean R} {robot : Point R} (h : ocean.Seen robot ocean')
    (game : GameState) : ocean.Seen robot (ocean'.observe game robot).ocean := by
  have hgathered : TrashItem.gathered robot ocean.layout.factor ∘
      TrashItem.gathered robot ocean.layout.factor =
        TrashItem.gathered robot ocean.layout.factor :=
    funext fun _ => TrashItem.gathered_gathered
  rw [Ocean.observe_eq]
  refine ⟨h.layout_eq, .inr ?_⟩
  dsimp only
  rw [h.layout_eq]
  rcases h.trash_eq with htrash | htrash
  . rw [htrash]
  . rw [htrash, List.map_map, hgathered]

namespace Controller

theorem ocean_tickOcean (c : Controller R) (dt : R) :
    (c.tickOcean dt).ocean = (c.ocean.tick c.settings c.game.isSpawningTrash dt).2 := by
  unfold tickOcean
  dsimp only
  split
  . rfl
  . rfl

section Position

variable [Tuning.Lasting R]

theorem position_runProgram (c : Controller R) (run : ActiveRun R) (dt : R) :
    (c.runProgram run dt).2.robot.position = c.robot.position := by
  have hposition := congrArg (fun bearings => bearings.rig.robot.position)
    (c.bearings_runProgram run dt)
  exact hposition.trans (Machine.position_advance _ _ _)

theorem seen_tick {c : Controller R} {run : ActiveRun R} (hrun : c.run = some run) (dt : R) :
    (c.tickOcean dt).ocean.Seen (c.tick dt).robot.position (c.tick dt).ocean := by
  -- the program's part in a timestep leaves the robot where its motion took it
  suffices h : (c.tick dt).robot.position = (c.moved run dt).robot.position ∧
      (c.tickOcean dt).ocean.Seen (c.moved run dt).robot.position (c.tick dt).ocean by
    rw [h.1]
    exact h.2
  apply tick_induction (P := fun d => d.robot.position = (c.moved run dt).robot.position ∧
    (c.tickOcean dt).ocean.Seen (c.moved run dt).robot.position d.ocean)
  . rintro d e _ hocean hrobot hd
    rw [hrobot, hocean]
    exact hd
  . rintro d ⟨hposition, hseen⟩
    rw [robot_collected, ocean_collected, hposition]
    exact ⟨rfl, hseen.observe _⟩
  . rintro d run' dt' ⟨hposition, hseen⟩
    have hocean := d.runProgram_kept ocean (fun _ _ _ => rfl) (fun _ _ => rfl) run' dt'
    rw [d.position_runProgram, hocean]
    exact ⟨hposition, hseen⟩
  . intro hnone
    rw [hrun] at hnone
    cases hnone
  . intro run' hrun'
    rw [hrun] at hrun'
    cases hrun'
    exact ⟨rfl, rfl, .inl rfl⟩

theorem exists_look {c : Controller R} (h : c.Consistent) (dt : R) :
    ∃ look : TrashItem R → TrashItem R,
      (c.tick dt).ocean.trash = (c.tickOcean dt).ocean.trash.map look ∧
        (look = id ∨ c.isRunning = true ∧
          look = TrashItem.gathered (c.tick dt).robot.position c.ocean.layout.factor) := by
  cases hrun : c.run with
  | none =>
    rw [tick_of_run_eq_none hrun]
    exact ⟨id, (List.map_id _).symm, .inl rfl⟩
  | some run =>
    have hlayout : (c.tickOcean dt).ocean.layout = c.ocean.layout :=
      congrArg Bearings.layout (c.bearings_tickOcean dt)
    have hrunning := h.isRunning (Option.isSome_of_eq_some hrun)
    rcases (seen_tick hrun dt).trash_eq with htrash | htrash
    . exact ⟨id, htrash.trans (List.map_id _).symm, .inl rfl⟩
    . rw [hlayout] at htrash
      exact ⟨_, htrash, .inr ⟨hrunning, rfl⟩⟩

end Position

end Controller

/-! ### Exact arithmetic -/

section Exact

variable [Exact]

instance : Tuning.Lasting ℝ where
  drive_lasts := by
    rw [Exact.zero_eq]
    exact zero_lt_one.trans_eq Nat.cast_one.symm
  motion_lasts := by
    have hduration : (Tuning.motionDuration : ℝ) = 1 / 2 := Exact.ratio_one 2
    rw [Exact.zero_eq, hduration]
    norm_num

namespace Controller

variable {c : Controller ℝ} {dt : ℝ}

theorem pose_beq_self (pose : Pose ℝ) : (pose == pose) = true :=
  Pose.beq_iff.mpr ⟨beq_self_eq_true _, beq_self_eq_true _, beq_self_eq_true _⟩

theorem trash_of_turn {run : ActiveRun ℝ} (hrun : c.run = some run)
    (hmotion : c.rig.motion = none)
    (hturns : (((c.moved run dt).runProgram (run.later dt) dt).2.robot.pose == c.robot.pose) =
      false) :
    (c.tick dt).ocean.trash =
      (c.tickOcean dt).ocean.trash.map
        (TrashItem.gathered c.robot.position c.ocean.layout.factor) := by
  have hrobot : (c.moved run dt).robot = c.robot := by
    rw [robot_moved, Rig.step_of_motion hmotion]
    rfl
  have hlayout : (c.moved run dt).ocean.layout = c.ocean.layout := (c.reef_moved run dt).1
  have hfirst : (c.moved run dt).observeIfMoved c.robot.pose = (false, c.moved run dt) := by
    unfold observeIfMoved
    rw [hrobot, if_pos (pose_beq_self _)]
  rw [← hrobot] at hturns
  rw [tick_of_run hrun]
  unfold unlessCoral
  rw [hfirst]
  unfold worked
  dsimp only
  rw [ocean_unlessCoral hturns fun d => d.ocean_settle _, ocean_collected, Ocean.observe_eq,
    position_runProgram, runProgram_kept ocean (fun _ _ _ => rfl) (fun _ _ => rfl), hrobot]
  dsimp only
  rw [hlayout]
  rfl

end Controller

def Script.turning (degrees : ℝ) : Script ℝ :=
  { bodies := #[#[.action (.setDriveRotation (some degrees))]], conditions := #[] }

omit [Exact] in
theorem Script.ofProgram_turning (degrees : ℝ) :
    Script.ofProgram [.action (.setDriveRotation (some degrees))] = .turning degrees :=
  (Script.Builder.complete_of_cons rfl).trans (Script.Builder.complete_of_nil rfl)

theorem Machine.rotation_of_turning {degrees : ℝ} (hfinite : Scalar.isFinite degrees = true)
    (origin : Point ℝ) (around : Surroundings ℝ) (dt : ℝ) :
    ((start (.turning degrees) origin).advance around dt).1.robot.rotation = degrees := by
  have hstep := (start (.turning degrees) origin).step_of_turn around (lt_irrefl _) rfl rfl rfl rfl
    hfinite
  change (run around 7 (start (.turning degrees) origin)).1.robot.rotation = degrees
  rw [run, hstep]
  rfl

namespace Controller

theorem trash_of_turning {c : Controller ℝ} (hrunning : c.isRunning = false) {degrees : ℝ}
    (hdegrees : degrees ≠ 0) (hfinite : Scalar.isFinite degrees = true) (dt : ℝ) :
    let started := (c.start [.action (.setDriveRotation (some degrees))]).2
    (started.tick dt).ocean.trash =
      (started.tickOcean dt).ocean.trash.map
        (TrashItem.gathered c.ocean.center c.ocean.layout.factor) := by
  intro started
  let run : ActiveRun ℝ := { interpreter := { script := .turning degrees }, clock := Scalar.zero }
  have hstarted : started = (c.launched (.turning degrees)).note (.runStarted 1 1) := by
    change (c.start _).2 = _
    rw [start_eq hrunning, Script.ofProgram_turning]
    rfl
  rw [hstarted]
  generalize hd : (c.launched (.turning degrees)).note (.runStarted 1 1) = d
  have hrun : d.run = some run := by
    rw [← hd]
    rfl
  have hrig : d.rig = .atRest c.ocean.center := by
    rw [← hd]
    rfl
  have hmoved : (d.moved run dt).rig = .atRest c.ocean.center := by
    have hbearings := congrArg Bearings.rig (d.bearings_moved run dt)
    rw [hrig] at hbearings
    exact hbearings.trans (Rig.step_of_motion rfl dt)
  have hturns : (((d.moved run dt).runProgram (run.later dt) dt).2.robot.pose == d.robot.pose) =
      false := by
    have hrotation := congrArg (fun bearings => bearings.rig.robot.rotation)
      ((d.moved run dt).bearings_runProgram (run.later dt) dt)
    dsimp only at hrotation
    rw [hmoved] at hrotation
    have hrotation := hrotation.trans (Machine.rotation_of_turning hfinite c.ocean.center _ _)
    rw [Bool.eq_false_iff, ne_eq, Pose.beq_iff]
    rintro ⟨-, -, hsame⟩
    have hsame := hrotation.symm.trans (beq_iff_eq.mp hsame)
    unfold Robot.pose robot at hsame
    rw [hrig] at hsame
    exact hdegrees (hsame.trans Nat.cast_zero)
  have htrash := trash_of_turn hrun (hrig ▸ rfl) hturns
  unfold robot at htrash
  rw [hrig] at htrash
  rw [htrash, ← hd]
  rfl

end Controller

end Exact

end ReefRover
