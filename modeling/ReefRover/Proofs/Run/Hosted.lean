import ReefRover.Proofs.Run.Lockstep
import ReefRover.Proofs.Run.Move

/-!
This module contains the proof that timesteps do not depend on the host. No stage looks at the host
time that is left or at what was recorded. A host that takes out the events and forgets the journal
has the controller of a host that does not, but for the records of the time before.
-/

namespace ReefRover

variable {R : Type}

namespace Controller

/-- The controller with another host time, and with these events and this journal before its own. -/
def hosted (c : Controller R) (time : R → R) (events : Array (GameEvent R))
    (journal : Array (Entry R)) : Controller R :=
  { c with
    accumulator := time c.accumulator
    events := events ++ c.events
    journal := journal ++ c.journal }

variable (c : Controller R) (time : R → R) (events : Array (GameEvent R))
  (journal : Array (Entry R))

theorem note_hosted (notice : Notice R) :
    (c.hosted time events journal).note notice = (c.note notice).hosted time events journal := by
  unfold hosted note
  dsimp only
  rw [Array.push_append]

theorem emit_hosted (e : GameEvent R) :
    (c.hosted time events journal).emit e = (c.emit e).hosted time events journal := by
  unfold hosted emit
  dsimp only
  rw [Array.push_append, Array.push_append]

theorem report_hosted (report : RunReport R) :
    (c.hosted time events journal).report report =
      (c.report report).hosted time events journal := by
  unfold hosted Controller.report
  dsimp only
  rw [Array.append_assoc]

theorem pickUp_hosted (pickup : Pickup) :
    (c.hosted time events journal).pickUp pickup =
      (c.pickUp pickup).hosted time events journal := by
  unfold pickUp
  rw [note_hosted, emit_hosted]

theorem finish_hosted (outcome : RunOutcome R) :
    (c.hosted time events journal).finish outcome =
      (c.finish outcome).hosted time events journal := by
  cases hrun : c.run with
  | none =>
    have hrun' : (c.hosted time events journal).run = none := hrun
    rw [finish_of_run_eq_none hrun, finish_of_run_eq_none hrun']
  | some run =>
    have hsome : c.run.isSome = true := Option.isSome_of_eq_some hrun
    have hsome' : (c.hosted time events journal).run.isSome = true := hsome
    have hended : (c.hosted time events journal).ended outcome =
        (c.ended outcome).hosted time events journal := rfl
    rw [finish_eq hsome, finish_eq hsome', hended, note_hosted, emit_hosted, report_hosted]
    rfl

variable [Scalar R]

/-! ### Stages -/

theorem tickOcean_hosted (dt : R) :
    (c.hosted time events journal).tickOcean dt =
      (c.tickOcean dt).hosted time events journal := by
  have hocean : ∀ ocean, { c.hosted time events journal with ocean } =
      Controller.hosted { c with ocean } time events journal := fun _ => rfl
  have htick : (c.hosted time events journal).ocean.tick (c.hosted time events journal).settings
      (c.hosted time events journal).game.isSpawningTrash dt =
      c.ocean.tick c.settings c.game.isSpawningTrash dt := rfl
  unfold tickOcean
  dsimp only
  rw [htick]
  split
  . rw [hocean, note_hosted, emit_hosted]
  . rfl

theorem moved_hosted (run : ActiveRun R) (dt : R) :
    (c.hosted time events journal).moved run dt =
      (c.moved run dt).hosted time events journal := by
  unfold moved
  rw [tickOcean_hosted]
  rfl

theorem collected_hosted :
    (c.hosted time events journal).collected = c.collected.hosted time events journal := by
  let seen := c.ocean.observe c.game c.robot.position
  let looking : Controller R := { c with ocean := seen.ocean, game := seen.game }
  have hpicked : seen.pickups.foldl pickUp (looking.hosted time events journal) =
      (seen.pickups.foldl pickUp looking).hosted time events journal :=
    List.foldl_hom (hosted · time events journal) fun c pickup =>
      c.pickUp_hosted time events journal pickup
  exact hpicked

theorem observe_hosted :
    (c.hosted time events journal).observe =
      (c.observe.1, c.observe.2.hosted time events journal) := by
  have hseen : (c.hosted time events journal).ocean.observe (c.hosted time events journal).game
      (c.hosted time events journal).robot.position =
      c.ocean.observe c.game c.robot.position := rfl
  have hrunning : (c.collected.hosted time events journal).isRunning = c.collected.isRunning := rfl
  rw [observe_eq, observe_eq, collected_hosted, hseen, hrunning]
  split
  . split
    . dsimp only
      rw [note_hosted, emit_hosted]
      rfl
    . rfl
  . rfl

theorem observeIfMoved_hosted (before : Pose R) :
    (c.hosted time events journal).observeIfMoved before =
      ((c.observeIfMoved before).1,
        (c.observeIfMoved before).2.hosted time events journal) := by
  have hrobot : (c.hosted time events journal).robot = c.robot := rfl
  unfold observeIfMoved
  rw [hrobot, observe_hosted]
  split
  . rfl
  . rfl

theorem runProgram_hosted (run : ActiveRun R) (dt : R) :
    (c.hosted time events journal).runProgram run dt =
      ((c.runProgram run dt).1, (c.runProgram run dt).2.hosted time events journal) := by
  let around : Surroundings R := { scale := c.ocean.layout.factor, clock := run.clock }
  let machine : Machine R := { toInterpreter := run.interpreter, toRig := c.rig }
  let machine' := (machine.advance around dt).1
  let worked : Controller R :=
    { c with
      rig := machine'.toRig
      run := some { run with interpreter := machine'.toInterpreter } }
  have hnoted : machine'.console.foldl (fun c text => c.note (.console text))
      (worked.hosted time events journal) =
      (machine'.console.foldl (fun c text => c.note (.console text)) worked).hosted time events
        journal :=
    Array.foldl_hom (hosted · time events journal)
      fun c text => c.note_hosted time events journal (.console text)
  exact congrArg (Prod.mk (machine.advance around dt).2) hnoted

/-! ### Timesteps -/

theorem lockstep_hosted (dt : R) :
    Lockstep id (fun c c' => c' = c.hosted time events journal) dt where
  pose_eq := by
    rintro c _ rfl
    rfl
  finish := by
    rintro c _ rfl outcome
    exact c.finish_hosted time events journal outcome
  look := by
    rintro c _ rfl before
    exact Prod.mk.inj (c.observeIfMoved_hosted time events journal before)
  program := by
    rintro c _ run rfl _
    exact Prod.mk.inj (c.runProgram_hosted time events journal run dt)

theorem tick_hosted (dt : R) :
    (c.hosted time events journal).tick dt = (c.tick dt).hosted time events journal := by
  have hrun : (c.hosted time events journal).run = c.run := rfl
  have hpose : (c.hosted time events journal).robot.pose = c.robot.pose := rfl
  apply (lockstep_hosted time events journal dt).tick hrun hpose
  . intro _
    exact c.tickOcean_hosted time events journal dt
  . intro run _
    exact c.moved_hosted time events journal run dt

/-! ### Records -/

def recalling (c : Controller R) (events : Array (GameEvent R)) (journal : Array (Entry R)) :
    Controller R :=
  { c with events := events ++ c.events, journal := journal ++ c.journal }

omit [Scalar R] in
theorem note_recalling (notice : Notice R) :
    (c.recalling events journal).note notice = (c.note notice).recalling events journal :=
  c.note_hosted id events journal notice

omit [Scalar R] in
theorem finish_recalling (outcome : RunOutcome R) :
    (c.recalling events journal).finish outcome =
      (c.finish outcome).recalling events journal :=
  c.finish_hosted id events journal outcome

theorem start_recalling (program : Program R) :
    ((c.recalling events journal).start program).2 =
      (c.start program).2.recalling events journal := by
  have hrunning : (c.recalling events journal).isRunning = c.isRunning := rfl
  unfold start
  rw [hrunning]
  split
  . exact note_recalling ..
  . exact (c.launched (Script.ofProgram program)).note_recalling events journal _

theorem startDecoded_recalling (decoded : Except Json.DecodeError (Program R)) :
    ((c.recalling events journal).startDecoded decoded).2 =
      (c.startDecoded decoded).2.recalling events journal := by
  cases decoded with
  | ok program => exact start_recalling ..
  | error e =>
    have hrunning : (c.recalling events journal).isRunning = c.isRunning := rfl
    unfold startDecoded
    dsimp only
    rw [hrunning]
    split
    . exact note_recalling ..
    . dsimp only
      rw [start_recalling, finish_recalling]

theorem tick_recalling (dt : R) :
    (c.recalling events journal).tick dt = (c.tick dt).recalling events journal :=
  c.tick_hosted id events journal dt

end Controller

end ReefRover
