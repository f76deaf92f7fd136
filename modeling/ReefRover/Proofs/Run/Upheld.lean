import ReefRover.Proofs.Machine.Over
import ReefRover.Proofs.Machine.Upheld
import ReefRover.Proofs.Run.Frames

/-!
This module contains what a run of a program upholds. What motions, the blocks of the program and
the cancellation of the run uphold of a rig holds of the rig of the controller after every timestep.
-/

namespace ReefRover

variable {R : Type}

def Bearings.machine (bearings : Bearings R) (run : ActiveRun R) : Machine R :=
  { toInterpreter := run.interpreter, toRig := bearings.rig }

variable [Scalar R]

/-- What holds of a rig holds of it after all that happens to it on a run of the program, too. -/
structure Rig.Survives (P : Rig R → Prop) (p : Program R) (layout : Layout) (dt : R) : Prop where
  cancelled : ∀ rig, P rig → P { rig with motion := none, cancelled := true }
  step : ∀ rig, P rig → P (rig.step dt).2
  advance : ∀ (m : Machine R) (clock : R), m.Runs p → m.Parked → P m.toRig →
    P (m.advance { scale := layout.factor, clock } dt).1.toRig

theorem Rig.Upheld.survives [Tuning.Valid R] {P : Rig R → Prop} {p : Program R} {layout : Layout}
    {dt : R} {A : Action R → Prop} (hA : ∀ action, .action action ∈ Program.blocks p → A action)
    (hcancelled : ∀ rig, P rig → P { rig with motion := none, cancelled := true })
    (hstep : ∀ rig, P rig → P (rig.step dt).2)
    (hP : ∀ clock : R, Upheld { scale := layout.factor, clock } A fun rig =>
      P rig ∧ rig.cancelled = false) : Rig.Survives P p layout dt where
  cancelled := hcancelled
  step := hstep
  advance := by
    intro m clock hruns hparked hm
    cases hover : m.cancelled with
    | true =>
      rw [Machine.advance_of_cancelled hover]
      exact hm
    | false =>
      obtain ⟨states, hadvances, -⟩ := hruns.exists_advances { scale := layout.factor, clock } dt
      have hacts : m.script.Acts A := by
        rw [hruns.script_eq]
        exact Script.acts_ofProgram hA
      exact (Upheld.advances (hP clock) hadvances hacts hparked ⟨hm, hover⟩).1

namespace Controller

structure Carries (c : Controller R) (p : Program R) (layout : Layout) (P : Rig R → Prop) :
    Prop where
  layout_eq : c.ocean.layout = layout
  rig : P c.rig
  runs : ∀ run, c.run = some run → (c.bearings.machine run).Runs p
  parked : ∀ run, c.run = some run → (c.bearings.machine run).Parked

namespace Carries

variable {c d : Controller R} {p : Program R} {layout : Layout} {P : Rig R → Prop}

theorem of_bearings (h : c.Carries p layout P) (hbearings : d.bearings = c.bearings) :
    d.Carries p layout P := by
  have hlayout : d.ocean.layout = c.ocean.layout := congrArg Bearings.layout hbearings
  have hrig : d.rig = c.rig := congrArg Bearings.rig hbearings
  have hrun : d.run = c.run := congrArg Bearings.run hbearings
  refine ⟨hlayout.trans h.layout_eq, hrig ▸ h.rig, ?_, ?_⟩
  . rw [hrun, hbearings]
    exact h.runs
  . rw [hrun, hbearings]
    exact h.parked

theorem of_run {run : ActiveRun R} (hlayout : d.ocean.layout = layout)
    (hrun : d.run = some run) (hrig : P d.rig) (hruns : (d.bearings.machine run).Runs p)
    (hparked : (d.bearings.machine run).Parked) : d.Carries p layout P := by
  refine ⟨hlayout, hrig, ?_, ?_⟩
  . intro run' hrun'
    rw [hrun] at hrun'
    cases hrun'
    exact hruns
  . intro run' hrun'
    rw [hrun] at hrun'
    cases hrun'
    exact hparked

variable {dt : R} {run : ActiveRun R} (hP : Rig.Survives P p layout dt)

include hP

theorem finish (h : c.Carries p layout P) (outcome : RunOutcome R) :
    (c.finish outcome).Carries p layout P := by
  have hbearings := c.bearings_finish outcome
  cases hrun : c.bearings.run with
  | none =>
    rw [hrun] at hbearings
    exact h.of_bearings hbearings
  | some run =>
    rw [hrun] at hbearings
    have hlayout : (c.finish outcome).ocean.layout = c.ocean.layout :=
      congrArg Bearings.layout hbearings
    have hrig : (c.finish outcome).rig = { c.rig with motion := none, cancelled := true } :=
      congrArg Bearings.rig hbearings
    have hnone : (c.finish outcome).run = none := congrArg Bearings.run hbearings
    refine ⟨hlayout.trans h.layout_eq, ?_, ?_, ?_⟩
    . rw [hrig]
      exact hP.cancelled _ h.rig
    . rw [hnone]
      nofun
    . rw [hnone]
      nofun

variable [Tuning.Valid R]

theorem moved (h : c.Carries p layout P) (hrun : c.run = some run) :
    (c.moved run dt).Carries p layout P := by
  have hbearings := c.bearings_moved run dt
  have hrig : (c.moved run dt).rig = (c.rig.step dt).2 := congrArg Bearings.rig hbearings
  have hmachine : (c.moved run dt).bearings.machine (run.later dt) =
      (c.bearings.machine run).handle (.animate dt) := by
    rw [hbearings]
    rfl
  have hlayout := (c.reef_moved run dt).1.trans h.layout_eq
  refine of_run hlayout (congrArg Bearings.run hbearings) ?_ ?_ ?_
  . rw [hrig]
    exact hP.step _ h.rig
  . rw [hmachine]
    exact (h.runs run hrun).handle _
  . rw [hmachine]
    exact (h.parked run hrun).handle (h.runs run hrun) _

theorem runProgram (h : c.Carries p layout P)
    (hruns : (c.bearings.machine run).Runs p) (hparked : (c.bearings.machine run).Parked) :
    (c.runProgram run dt).2.Carries p layout P := by
  let event : Event R := .advance { scale := layout.factor, clock := run.clock } dt
  let m := c.bearings.machine run
  have hbearings : (c.runProgram run dt).2.bearings =
      { c.bearings with
        rig := (m.handle event).toRig
        run := some { run with interpreter := (m.handle event).toInterpreter } } := by
    have hbearings := c.bearings_runProgram run dt
    dsimp only at hbearings
    rw [h.layout_eq] at hbearings
    exact hbearings
  have hlayout : (c.runProgram run dt).2.ocean.layout = c.ocean.layout :=
    congrArg Bearings.layout hbearings
  have hrig : (c.runProgram run dt).2.rig = (m.handle event).toRig :=
    congrArg Bearings.rig hbearings
  have hrun : (c.runProgram run dt).2.run =
      some { run with interpreter := (m.handle event).toInterpreter } :=
    congrArg Bearings.run hbearings
  refine of_run (hlayout.trans h.layout_eq) hrun ?_ ?_ ?_
  . rw [hrig]
    exact hP.advance m run.clock hruns hparked h.rig
  . rw [hbearings]
    exact ⟨(hruns.handle event).script_eq, (hruns.handle event).onPath⟩
  . rw [hbearings]
    exact ⟨(hparked.handle hruns event).still⟩

theorem stagewise : Stagewise (fun c => c.Carries p layout P) dt where
  finish := fun h outcome => h.finish hP outcome
  look := fun {c} h before => h.of_bearings (c.bearings_observeIfMoved before)
  program := fun h hrun => h.runProgram hP (h.runs _ hrun) (h.parked _ hrun)

theorem tick (h : c.Carries p layout P) : (c.tick dt).Carries p layout P :=
  (stagewise hP).tick (fun _ => h.of_bearings (c.bearings_tickOcean dt)) fun _ hrun =>
    h.moved hP hrun

end Carries

theorem Carries.ticked [Tuning.Valid R] {c : Controller R} {p : Program R} {layout : Layout}
    {P : Rig R → Prop} (hP : Rig.Survives P p layout Tuning.timestep) (h : c.Carries p layout P)
    (n : Nat) : (c.ticked n).Carries p layout P := by
  induction n generalizing c with
  | zero => exact h
  | succ n ih => exact ih (h.tick hP)

theorem carries_start {c : Controller R} (hrunning : c.isRunning = false) (p : Program R)
    {P : Rig R → Prop} (hP : P (.atRest c.ocean.center)) :
    (c.start p).2.Carries p c.ocean.layout P := by
  have hstart : (c.start p).2.bearings = (c.launched (Script.ofProgram p)).bearings := by
    unfold start
    rw [hrunning]
    rfl
  have hlaunched : (c.launched (Script.ofProgram p)).Carries p c.ocean.layout P :=
    .of_run rfl rfl hP (Machine.runs_launch p _) (Machine.parked_of_motion rfl)
  exact hlaunched.of_bearings hstart

end Controller

end ReefRover
