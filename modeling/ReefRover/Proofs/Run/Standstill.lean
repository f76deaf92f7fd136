import ReefRover.Proofs.Machine.Standstill
import ReefRover.Proofs.Run.Ring
import ReefRover.Proofs.Run.Session

/-!
This module contains the proof that a run whose program waits for a condition without the clock in
it ends by the hand of the host only. Nothing happens to a robot at rest that is clear of coral.
-/

namespace ReefRover

variable {R : Type}

def Command.endsRun : Command R → Bool
  | .stop | .reset | .clear => true
  | .start _ | .startDecoded _ | .setLayout _ | .listen | .tick _ | .advance _ | .drainEvents =>
    false

variable [Scalar R]

namespace Controller

structure Stranded (c : Controller R) (condition : CondId) (frames : List Frame)
    (robot : Robot R) : Prop where
  clear : c.Clear
  cancelled : c.rig.cancelled = false
  exists_run : ∃ run, c.run = some run ∧
    (c.bearings.machine run).Stranded condition frames robot

namespace Stranded

variable {c d : Controller R} {condition : CondId} {frames : List Frame} {robot : Robot R}

theorem of_bearings (h : c.Stranded condition frames robot) (hbearings : d.bearings = c.bearings) :
    d.Stranded condition frames robot where
  clear := h.clear.alike hbearings
  cancelled := by
    have hrig : d.rig = c.rig := congrArg Bearings.rig hbearings
    rw [hrig]
    exact h.cancelled
  exists_run := by
    have hrun : d.run = c.run := congrArg Bearings.run hbearings
    rw [hrun, hbearings]
    exact h.exists_run

theorem isRunning (h : c.Stranded condition frames robot) : c.isRunning = true := by
  obtain ⟨run, hrun, -⟩ := h.exists_run
  exact h.clear.isRunning hrun

theorem robot_eq (h : c.Stranded condition frames robot) : c.robot = robot := by
  obtain ⟨run, -, hstranded⟩ := h.exists_run
  exact hstranded.robot_eq

theorem moved (h : c.Stranded condition frames robot) (run : ActiveRun R) (dt : R) :
    (c.moved run dt).bearings = { c.bearings with run := some (run.later dt) } := by
  obtain ⟨run', -, hstranded⟩ := h.exists_run
  have hrig : (c.rig.step dt).2 = c.rig := Rig.step_of_motion hstranded.motion_eq dt
  rw [bearings_moved, hrig]
  rfl

theorem runProgram {run : ActiveRun R} (hcancelled : c.rig.cancelled = false)
    (h : (c.bearings.machine run).Stranded condition frames robot) (dt : R) :
    (c.runProgram run dt).1 = .ok .pending ∧
      ∃ run', (c.runProgram run dt).2.bearings = { c.bearings with run := some run' } ∧
        (c.bearings.machine run').Stranded condition frames robot := by
  obtain ⟨left, hadvance, -⟩ :=
    h.advance { scale := c.ocean.layout.factor, clock := run.clock } dt
  have hover : (c.bearings.machine run).cancelled = false := hcancelled
  rw [hover] at hadvance
  have hbearings := c.bearings_runProgram run dt
  have hmachine : ({ toInterpreter := run.interpreter, toRig := c.rig } : Machine R) =
      c.bearings.machine run := rfl
  dsimp only at hbearings
  rw [hmachine, hadvance] at hbearings
  refine ⟨congrArg Prod.snd hadvance, _, hbearings, ?_⟩
  exact ⟨h.frames_eq, h.robot_eq, h.isDone, h.motion_eq, ⟨left, rfl⟩, h.test_eq⟩

theorem worked [Tuning.Lasting R] {run : ActiveRun R} (hclear : c.Clear)
    (hrun : c.run = some run) (hcancelled : c.rig.cancelled = false)
    (h : (c.bearings.machine run).Stranded condition frames robot) (dt : R) :
    ∃ run', (c.worked run dt).bearings = { c.bearings with run := some run' } ∧
      (c.bearings.machine run').Stranded condition frames robot := by
  obtain ⟨hresult, run', hbearings, hstranded⟩ := runProgram hcancelled h dt
  have hcontact : (c.runProgram run dt).2.contact? = none := by
    rw [contact?_runProgram]
    exact hclear.contact (hclear.isRunning hrun)
  obtain ⟨d, hlooked, hd⟩ := observeIfMoved_of_no_contact hcontact c.robot.pose
  refine ⟨run', ?_, hstranded⟩
  unfold Controller.worked unlessCoral
  dsimp only
  rw [hlooked, hresult]
  exact hd.trans hbearings

theorem startDecoded (h : c.Stranded condition frames robot)
    (decoded : Except Json.DecodeError (Program R)) :
    (c.startDecoded decoded).2.Stranded condition frames robot := by
  apply h.of_bearings
  unfold Controller.startDecoded
  cases decoded with
  | ok program =>
    dsimp only
    unfold start
    rw [h.isRunning]
    rfl
  | error e =>
    dsimp only
    rw [h.isRunning]
    rfl

variable [Scalar.Metric R] [Tuning.Lasting R]

theorem tick (h : c.Stranded condition frames robot) (dt : R) :
    (c.tick dt).Stranded condition frames robot := by
  obtain ⟨run, hrun, hstranded⟩ := h.exists_run
  have hmoved := h.moved run dt
  have hcontact : (c.moved run dt).contact? = none := by
    unfold contact?
    rw [hmoved]
    exact h.clear.contact h.isRunning
  obtain ⟨d, hlooked, hd⟩ := observeIfMoved_of_no_contact hcontact c.robot.pose
  have hclear : d.Clear := (h.clear.moved hrun hcontact).alike hd
  have hbearings : d.bearings = { c.bearings with run := some (run.later dt) } := hd.trans hmoved
  have hrun' : d.run = some (run.later dt) := congrArg Bearings.run hbearings
  have hcancelled : d.rig.cancelled = false := by
    have hrig : d.rig = c.rig := congrArg Bearings.rig hbearings
    rw [hrig]
    exact h.cancelled
  have hstranded' : (d.bearings.machine (run.later dt)).Stranded condition frames robot := by
    rw [hbearings]
    exact hstranded
  have htick : c.tick dt = d.worked (run.later dt) dt := by
    rw [tick_of_run hrun]
    unfold unlessCoral
    rw [hlooked]
  obtain ⟨run', hworked, hend⟩ := worked hclear hrun' hcancelled hstranded' dt
  rw [← htick] at hworked
  refine ⟨h.clear.tick dt, ?_, run', congrArg Bearings.run hworked, ?_⟩
  . have hrig : (c.tick dt).rig = d.rig := congrArg Bearings.rig hworked
    rw [hrig]
    exact hcancelled
  . rw [hworked]
    exact hend

theorem advance (h : c.Stranded condition frames robot) (frame : R) :
    (c.advance frame).2.Stranded condition frames robot := by
  apply advance_induction (P := fun d => d.Stranded condition frames robot) _ _ c frame h
  . intro d accumulator hd
    exact ⟨hd.clear.hosts accumulator, hd.cancelled, hd.exists_run⟩
  . intro d hd
    exact hd.tick _

theorem obey (h : c.Stranded condition frames robot) {command : Command R}
    (hends : command.endsRun = false) : (c.obey command).Stranded condition frames robot := by
  cases command with
  | stop | reset | clear => cases hends
  | start program => exact h.startDecoded (.ok program)
  | startDecoded decoded => exact h.startDecoded decoded
  | setLayout layout =>
    apply h.of_bearings
    unfold Controller.obey setLayout
    dsimp only
    rw [h.isRunning]
    rfl
  | listen => exact h.of_bearings rfl
  | tick dt => exact h.tick dt
  | advance frame => exact h.advance frame
  | drainEvents => exact h.of_bearings rfl

theorem after (h : c.Stranded condition frames robot) {commands : List (Command R)}
    (hends : ∀ command ∈ commands, command.endsRun = false) :
    (c.after commands).Stranded condition frames robot :=
  after_induction (P := fun d => d.Stranded condition frames robot)
    (fun _ hd command hcommand => hd.obey (hends command hcommand)) h

end Stranded

section Float32

variable {c : Controller Float32}

theorem Clear.obey_of_hasReef (h : c.Clear) (hreef : c.HasReef) (hconsistent : c.Consistent)
    (command : Command Float32) : (c.obey command).Clear := by
  have hreef' := hreef.obey command
  have hconsistent' : (c.obey command).Consistent := hconsistent.after [command]
  cases hgrows : command.growsReef with
  | false => exact h.obey hgrows
  | true =>
    cases command with
    | setLayout layout =>
      cases hrunning : c.isRunning with
      | true =>
        have hrefused : (c.obey (.setLayout layout)).bearings = c.bearings := by
          unfold Controller.obey setLayout
          dsimp only
          rw [hrunning]
          rfl
        exact h.alike hrefused
      | false =>
        have hidle : (c.obey (.setLayout layout)).isRunning = false := by
          unfold Controller.obey setLayout
          dsimp only
          rw [hrunning]
          rfl
        exact clear_of_hasReef hreef' hconsistent' hidle
    | start | startDecoded | stop | reset | clear | listen | tick | advance | drainEvents =>
      cases hgrows

theorem clear_after (settings : Settings Float32) (session : UInt64)
    (commands : List (Command Float32)) : ((new settings session).after commands).Clear := by
  have hreef : (new settings session).HasReef := hasReef_after settings session []
  have hnew : (new settings session).Consistent := consistent_new settings session
  suffices hall : let c := (new settings session).after commands
      c.Clear ∧ c.HasReef ∧ c.Consistent from hall.1
  apply after_induction (P := fun c => c.Clear ∧ c.HasReef ∧ c.Consistent) _
    ⟨clear_of_hasReef hreef hnew rfl, hreef, hnew⟩
  -- the reef of a new layout leaves the centre free because it was drawn for that layout
  rintro c ⟨hclear, hreef, hc⟩ command _
  exact ⟨hclear.obey_of_hasReef hreef hc command, hreef.obey command, hc.after [command]⟩

theorem stranded_after (settings : Settings Float32) (session : UInt64)
    (commands : List (Command Float32)) {run : ActiveRun Float32} {condition : CondId}
    {left : Float32} (hrun : ((new settings session).after commands).run = some run)
    (hwait : run.interpreter.wait = .poll condition left)
    (hclock : (run.interpreter.script.condition condition).readsClock = false) :
    ((new settings session).after commands).Stranded condition run.interpreter.frames
      ((new settings session).after commands).robot := by
  have hclear := clear_after settings session commands
  refine ⟨hclear, ?_, run, hrun, ?_⟩
  . exact (consistent_after settings session commands).cancelled (hclear.isRunning hrun)
  . obtain ⟨p, robot, events, console, hsession⟩ :=
      inSession_after settings session commands run hrun
    have hpoised := (Machine.poised_launch (Script.ofProgram p) robot).after
      (Machine.runs_launch p robot) events
    rw [← hsession] at hpoised
    have hstranded := hpoised.stranded hwait hclock
    exact ⟨rfl, rfl, hstranded.isDone, hstranded.motion_eq, hstranded.wait_eq, hstranded.test_eq⟩

/--
Where a program waits for a condition without the clock in it, the next block is never executed. No
timestep executes anything or fails, the robot stays as it is, and a run that has come to such a
place goes on until the host ends it.
-/
theorem waits_in_vain :
    (∀ (p : Program Float32) (robot : Robot Float32) (events : List (Event Float32))
      (condition : CondId) (left : Float32),
      let m := (Machine.launch (Script.ofProgram p) robot).after events
      m.wait = .poll condition left → (m.script.condition condition).readsClock = false →
        (∃ frame below position, m.frames = frame :: below ∧ frame.next = position + 1 ∧
          m.script.instr? ⟨frame.body, position⟩ = some (.waitUntil condition)) ∧
        ∀ later : List (Event Float32),
          let m' := m.after later
          m'.frames = m.frames ∧ m'.robot = m.robot ∧
            ∀ around dt, ∃ ended,
              m'.advance around dt =
                (ended, .ok (if m'.cancelled then .cancelled else .pending)) ∧
              m'.Advances around dt [] ended
                (.ok (if m'.cancelled then .cancelled else .pending))) ∧
    ∀ (settings : Settings Float32) (session : UInt64) (earlier : List (Command Float32))
      (run : ActiveRun Float32) (condition : CondId) (left : Float32),
      let c := (new settings session).after earlier
      c.run = some run → run.interpreter.wait = .poll condition left →
        (run.interpreter.script.condition condition).readsClock = false →
        ∀ commands : List (Command Float32),
          (∀ command ∈ commands, command.endsRun = false) →
          let d := c.after commands
          d.isRunning = true ∧ d.robot = c.robot ∧
            ∃ run', d.run = some run' ∧ run'.interpreter.frames = run.interpreter.frames := by
  constructor
  . intro p robot events condition left m hwait hclock
    have hpoised : m.Poised :=
      (Machine.poised_launch (Script.ofProgram p) robot).after (Machine.runs_launch p robot) events
    exact ⟨hpoised.inPlace condition left hwait, hpoised.stays hwait hclock⟩
  . intro settings session earlier run condition left c hrun hwait hclock commands hends d
    have hd := (stranded_after settings session earlier hrun hwait hclock).after hends
    obtain ⟨run', hrun', hstranded⟩ := hd.exists_run
    exact ⟨hd.isRunning, hd.robot_eq, run', hrun', hstranded.frames_eq⟩

theorem waits_in_vain_for_bumper :
    let p : Program Float32 := [.waitUntil (.sensor .leftBumperPressed), .print "touched"]
    let events : List (Event Float32) := [.advance ⟨1, 0⟩ 0]
    let m := (Machine.launch (Script.ofProgram p) (.atRest ⟨200, 200⟩)).after events
    let later : List (Event Float32) := [.animate 1, .advance ⟨1, 1⟩ 1, .cancel]
    let c := (new (Settings.defaults : Settings Float32) 7).after [.start p, .tick 0]
    m.wait = .poll ⟨0⟩ Tuning.pollInterval ∧ (m.script.condition ⟨0⟩).readsClock = false ∧
      (m.after later).frames = m.frames ∧ (m.after later).cancelled = true ∧
      ∃ run, c.run = some run ∧ run.interpreter.wait = .poll ⟨0⟩ Tuning.pollInterval ∧
        (run.interpreter.script.condition ⟨0⟩).readsClock = false ∧
        (c.after [.start [], .tick 1, .advance 1]).isRunning = true := by
  intro p events m later c
  have hm : m.wait = .poll ⟨0⟩ Tuning.pollInterval ∧
      (m.script.condition ⟨0⟩).readsClock = false ∧ (m.after later).cancelled = true := by
    decide +kernel
  have hc : ∃ run ∈ c.run, run.interpreter.wait = .poll ⟨0⟩ Tuning.pollInterval ∧
      (run.interpreter.script.condition ⟨0⟩).readsClock = false := by
    decide +kernel
  obtain ⟨hwait, hclock, hcancelled⟩ := hm
  obtain ⟨run, hrun, hwait', hclock'⟩ := hc
  obtain ⟨hmachine, hcontroller⟩ := waits_in_vain
  obtain ⟨-, hlater⟩ := hmachine p (.atRest ⟨200, 200⟩) events ⟨0⟩ Tuning.pollInterval hwait hclock
  obtain ⟨hrunning, -, -⟩ := hcontroller (Settings.defaults : Settings Float32) 7
    [.start p, .tick 0] run ⟨0⟩ Tuning.pollInterval hrun hwait' hclock'
    [.start [], .tick 1, .advance 1] (by simp [Command.endsRun])
  exact ⟨hwait, hclock, (hlater later).1, hcancelled, run, hrun, hwait', hclock', hrunning⟩

end Float32

end Controller

end ReefRover
