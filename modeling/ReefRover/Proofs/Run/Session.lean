import ReefRover.Proofs.Run.Lifecycle
import ReefRover.Proofs.Run.Upheld

/-!
This module contains the sessions that controllers hold. Whatever a host does with a controller, the
machine of its run is one that a program was launched on, and for which robot and program have
taken turns since. What holds in all sessions of a program thus holds of every run.
-/

namespace ReefRover

variable {R : Type} [Scalar R]

namespace Controller

/-- The console is apart, since it does not outlive a timestep. -/
def InSession (c : Controller R) : Prop :=
  ∀ run, c.run = some run → ∃ (p : Program R) (robot : Robot R) (events : List (Event R))
    (console : Array String),
      { c.bearings.machine run with console } =
        (Machine.launch (Script.ofProgram p) robot).after events

namespace InSession

variable {c d : Controller R} {run : ActiveRun R} {dt : R}

theorem of_bearings (h : c.InSession) (hbearings : d.bearings = c.bearings) : d.InSession := by
  have hrun : d.run = c.run := congrArg Bearings.run hbearings
  unfold InSession
  rw [hrun, hbearings]
  exact h

theorem of_run_eq_none (h : c.run = none) : c.InSession := by
  intro run hrun
  rw [h] at hrun
  cases hrun

theorem handles {run' : ActiveRun R} {console : Array String} (h : c.InSession)
    (hrun : c.run = some run) (hrun' : d.run = some run') (event : Event R)
    (hmachine : { d.bearings.machine run' with console } =
      (c.bearings.machine run).handle event) : d.InSession := by
  intro run'' hrun''
  rw [hrun'] at hrun''
  cases hrun''
  obtain ⟨p, robot, events, earlier, hsession⟩ := h run hrun
  have hafter : (Machine.launch (Script.ofProgram p) robot).after (events ++ [event]) =
      { c.bearings.machine run with console := earlier }.handle event := by
    rw [hsession]
    exact List.foldl_append
  cases event with
  | cancel =>
    refine ⟨p, robot, events ++ [.cancel], earlier, ?_⟩
    rw [hafter]
    exact congrArg (fun m : Machine R => { m with console := earlier }) hmachine
  | animate dt =>
    refine ⟨p, robot, events ++ [.animate dt], earlier, ?_⟩
    rw [hafter]
    exact congrArg (fun m : Machine R => { m with console := earlier }) hmachine
  | advance around dt =>
    -- a timestep of the program begins with an empty console
    refine ⟨p, robot, events ++ [.advance around dt], console, ?_⟩
    rw [hafter]
    exact hmachine

theorem moved (h : c.InSession) (hrun : c.run = some run) : (c.moved run dt).InSession := by
  have hbearings := c.bearings_moved run dt
  have hmachine : { (c.moved run dt).bearings.machine (run.later dt) with console := #[] } =
      (c.bearings.machine run).handle (.animate dt) := by
    rw [hbearings]
    rfl
  exact h.handles hrun (congrArg Bearings.run hbearings) (.animate dt) hmachine

theorem runProgram (h : c.InSession) (hrun : c.run = some run) :
    (c.runProgram run dt).2.InSession := by
  have hbearings := c.bearings_runProgram run dt
  apply h.handles hrun (congrArg Bearings.run hbearings)
    (.advance { scale := c.ocean.layout.factor, clock := run.clock } dt)
  rw [hbearings]
  rfl

theorem stagewise (dt : R) : Stagewise InSession dt where
  finish := fun {c} _ outcome => of_run_eq_none (c.run_finish outcome)
  look := fun {c} h before => h.of_bearings (c.bearings_observeIfMoved before)
  program := fun h hrun => h.runProgram hrun

theorem tick (h : c.InSession) (dt : R) : (c.tick dt).InSession :=
  (stagewise dt).tick (fun _ => h.of_bearings (c.bearings_tickOcean dt)) fun _ hrun =>
    h.moved hrun

theorem advance (h : c.InSession) (frame : R) : (c.advance frame).2.InSession :=
  advance_induction (fun _ _ hd => hd) (fun _ hd => hd.tick _) c frame h

theorem start (h : c.InSession) (program : Program R) : (c.start program).2.InSession := by
  unfold Controller.start
  split
  . exact h.of_bearings rfl
  . intro run hrun
    cases hrun
    exact ⟨program, .atRest c.ocean.center, [], #[], rfl⟩

theorem startDecoded (h : c.InSession) (decoded : Except Json.DecodeError (Program R)) :
    (c.startDecoded decoded).2.InSession := by
  rcases c.startDecoded_cases decoded with ⟨program, heq⟩ | ⟨outcome, -, heq⟩
  . rw [heq]
    exact h.start program
  . rw [heq]
    exact of_run_eq_none (run_finish _ outcome)

theorem setLayout (h : c.InSession) (layout : Layout) : (c.setLayout layout).2.InSession := by
  unfold Controller.setLayout
  split
  . exact h.of_bearings rfl
  . exact of_run_eq_none (run_finish _ .stopped)

theorem obey (h : c.InSession) (command : Command R) : (c.obey command).InSession := by
  cases command with
  | start program => exact h.start program
  | startDecoded decoded => exact h.startDecoded decoded
  | stop => exact of_run_eq_none (c.run_finish .stopped)
  | reset => exact of_run_eq_none (c.run_finish .stopped)
  | clear => exact of_run_eq_none (c.run_finish .stopped)
  | setLayout layout => exact h.setLayout layout
  | listen => exact h.of_bearings rfl
  | tick dt => exact h.tick dt
  | advance frame => exact h.advance frame
  | drainEvents => exact h.of_bearings rfl

theorem after (h : c.InSession) (commands : List (Command R)) : (c.after commands).InSession :=
  after_induction (fun _ hd command _ => hd.obey command) h

end InSession

theorem inSession_after (settings : Settings R) (session : UInt64) (commands : List (Command R)) :
    ((new settings session).after commands).InSession :=
  InSession.after (.of_run_eq_none rfl) commands

end Controller

end ReefRover
