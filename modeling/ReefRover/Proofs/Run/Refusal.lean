import ReefRover.Proofs.Run.Reports
import ReefRover.Run.Codec

/-!
This module contains what is left of commands that are not carried out. While a program is running,
a start and a change of the layout are refused, and nothing comes of them. At any other time a text
that is no program makes a run that has failed before its first timestep.
-/

namespace ReefRover

variable {R : Type}

namespace Controller

/-- Nothing was done, no event came up and nobody was told anything; it may have been noted. -/
structure Untouched (c c' : Controller R) : Prop where
  eq_but_journal : { c' with journal := c.journal } = c
  log_eq : c'.log = c.log
  runs_eq : c'.runs = c.runs
  told_eq : ∀ listener, c'.told listener = c.told listener

theorem untouched_note (c : Controller R) {notice : Notice R} (hnotice : notice.startsRun = false) :
    c.Untouched (c.note notice) where
  eq_but_journal := rfl
  log_eq := c.log_note notice
  runs_eq := c.runs_note hnotice
  told_eq := c.told_note notice

def malformed (e : Json.DecodeError) : RunReport R :=
  { outcome := .failed (.malformed e.message), trashCollected := 0 }

variable [Scalar R] {c : Controller R}

/--
A run began and failed before its first timestep. The reef, the generator and the ids still to be
given away are as they were.
-/
structure FailedAtOnce (e : Json.DecodeError) (c c' : Controller R) : Prop where
  eq_but_news : { c' with events := c.events, journal := c.journal } =
    { c with
      rig := { robot := .atRest c.ocean.center, motion := none, cancelled := true }
      game :=
        { trashCollected := 0, isGameOver := true, gameLost := true, isSpawningTrash := false }
      ocean := { c.ocean with trash := [], spawnTimer := c.settings.effectiveSpawnInterval }
      phase := .finished (.failed (.malformed e.message))
      run := none
      accumulator := Scalar.zero }
  events_eq : c'.events.toList = c.events.toList ++ [.runFinished (malformed e)]
  log_eq : c'.log = c.log ++ [.runFinished (malformed e)]
  runs_eq : c'.runs = c.runs ++ [[.runFinished (malformed e)]]
  told_eq : ∀ listener, c'.told listener =
    c.told listener ++ if listener < c.listeners then [malformed e] else []

/-! ### Refusals -/

theorem start_of_running (h : c.isRunning = true) (program : Program R) :
    c.start program = (.error .alreadyRunning, c.note .startRefused) := by
  unfold start
  rw [if_pos h]

theorem startDecoded_of_running (h : c.isRunning = true)
    (decoded : Except Json.DecodeError (Program R)) :
    c.startDecoded decoded = (.error .alreadyRunning, c.note .startRefused) := by
  cases decoded with
  | ok program => exact start_of_running h program
  | error e =>
    unfold startDecoded
    exact if_pos h

theorem setLayout_of_running (h : c.isRunning = true) (layout : Layout) :
    c.setLayout layout = (.error .busy, c.note .layoutRefused) := by
  unfold setLayout
  rw [if_pos h]

/-! ### Runs that fail at once -/

theorem start_eq (h : c.isRunning = false) (program : Program R) :
    let script := Script.ofProgram program
    c.start program =
      (.ok (), (c.launched script).note (.runStarted script.instrCount script.bodyCount)) := by
  unfold start
  rw [h]
  rfl

theorem startDecoded_error (h : c.isRunning = false) (e : Json.DecodeError) :
    c.startDecoded (.error e) =
      (.error (.badProgram e), (c.start []).2.finish (.failed (.malformed e.message))) := by
  unfold startDecoded
  dsimp only
  rw [h]
  rfl

theorem failedAtOnce_finish (h : c.isRunning = false) (e : Json.DecodeError) :
    c.FailedAtOnce e ((c.start []).2.finish (.failed (.malformed e.message))) := by
  have hstart := congrArg Prod.snd (start_eq h [])
  have hrun : (c.start []).2.run.isSome = true := by
    rw [hstart]
    rfl
  have hscore : (c.start []).2.game.trashCollected = 0 := by
    rw [hstart]
    rfl
  have hbrings := brings_finish hrun (.failed (.malformed e.message))
  rw [hscore] at hbrings
  refine ⟨?_, ?_, ?_, ?_, ?_⟩
  . rw [finish_eq hrun, hstart]
    rfl
  . refine hbrings.events_eq.trans ?_
    rw [hstart]
    rfl
  . refine hbrings.log_eq.trans ?_
    rw [hstart, log_note]
    rfl
  . have hruns : (c.start []).2.runs = c.runs ++ [[]] := by
      rw [hstart, runs_note_of_startsRun _ rfl]
      rfl
    exact hbrings.runs_append hruns
  . intro listener
    rw [told_finish hrun, told_start, listeners_start, hscore]
    rfl

/--
A command is carried out as a whole or not at all. While a program is running, whatever else is to
be started is refused, even if its text makes no sense, as is another layout. Otherwise a text
stands for the program it decodes to, and one that decodes to none is a run that fails at once.
-/
theorem carried_out_or_refused (c : Controller Float32) (text : String) :
    (c.isRunning = true →
      (∀ program, (c.start program).1 = .error .alreadyRunning ∧
        c.Untouched (c.start program).2) ∧
      ((c.startText text).1 = .error .alreadyRunning ∧ c.Untouched (c.startText text).2) ∧
      ∀ layout, (c.setLayout layout).1 = .error .busy ∧ c.Untouched (c.setLayout layout).2) ∧
    (c.isRunning = false →
      (∀ program, Program.ofText text = .ok program →
        (c.startText text).1 = .ok () ∧ c.startText text = c.start program) ∧
      ∀ e, Program.ofText text = .error e →
        (c.startText text).1 = .error (.badProgram e) ∧ c.FailedAtOnce e (c.startText text).2) := by
  refine ⟨fun hrunning => ⟨?_, ?_, ?_⟩, fun hidle => ⟨?_, ?_⟩⟩
  . intro program
    rw [start_of_running hrunning]
    exact ⟨rfl, c.untouched_note rfl⟩
  . unfold startText
    rw [startDecoded_of_running hrunning]
    exact ⟨rfl, c.untouched_note rfl⟩
  . intro layout
    rw [setLayout_of_running hrunning]
    exact ⟨rfl, c.untouched_note rfl⟩
  . intro program hprogram
    have htext : c.startText text = c.start program := congrArg c.startDecoded hprogram
    rw [htext, start_eq hidle]
    exact ⟨rfl, rfl⟩
  . intro e he
    have htext : c.startText text = c.startDecoded (.error e) := congrArg c.startDecoded he
    rw [htext, startDecoded_error hidle]
    exact ⟨rfl, failedAtOnce_finish hidle e⟩

theorem carried_out_or_refused_of_bracket :
    let c := (new (Settings.defaults : Settings Float32) 7).listen.2
    let running := (c.start []).2
    (running.startText "[").1 = .error .alreadyRunning ∧
      running.Untouched (running.startText "[").2 ∧
      (running.setLayout .enlarged).1 = .error .busy ∧
      c.startText "[]" = c.start [] ∧
      c.FailedAtOnce .notJson (c.startText "[").2 ∧
      (c.startText "[").2.told 0 = [malformed .notJson] := by
  intro c running
  have hempty : Program.ofText "[]" = .ok [] := by
    have hlex : Json.lex "[]".toList = [.openArr, .closeArr] := by decide +kernel
    unfold Program.ofText Json.decode Json.read
    rw [hlex]
    rfl
  have hopen : Program.ofText "[" = .error .notJson := by
    have hlex : Json.lex "[".toList = [.openArr] := by decide +kernel
    unfold Program.ofText Json.decode Json.read
    rw [hlex]
    rfl
  obtain ⟨-, htext, hlayout⟩ := (carried_out_or_refused running "[").1 rfl
  obtain ⟨hgood, -⟩ := (carried_out_or_refused c "[]").2 rfl
  obtain ⟨-, hbad⟩ := (carried_out_or_refused c "[").2 rfl
  have hfailed := (hbad .notJson hopen).2
  have htold : (c.startText "[").2.told 0 = [malformed .notJson] := hfailed.told_eq 0
  exact ⟨htext.1, htext.2, (hlayout .enlarged).1, (hgood [] hempty).2, hfailed, htold⟩

end Controller

end ReefRover
