import ReefRover.Run.Codec
import ReefRover.Run.LogFilter

/-!
This module contains the headless run: one program from its start to its report, in simulated time
and without a host. The whole run is a value, which holds the lines of the log, the report and the
exit code.
-/

namespace ReefRover

inductive ReadError where
  | notFound
  | denied
  | notText
  | other (reason : String)
deriving DecidableEq, Repr

namespace ReadError

def message : ReadError → String
  | notFound => "No such file or directory (os error 2)"
  | denied => "Permission denied (os error 13)"
  | notText => "stream did not contain valid UTF-8"
  | other reason => reason

end ReadError

inductive ProgramSource where
  | patrol
  | file (name : String) (content : Except ReadError String)

structure HeadlessRun where
  log : Array LogLine
  report : Option (RunReport Float32)

namespace HeadlessRun

/-- 1 if there was no run, 2 if the run was lost and 0 otherwise. -/
def exitCode (run : HeadlessRun) : UInt8 :=
  match run.report with
  | none => 1
  | some report => if report.outcome.isLoss then 2 else 0

def output (run : HeadlessRun) : Option String :=
  run.report.map fun report => report.toJson.renderPretty

def shownLog (run : HeadlessRun) (setting : Option String) : String :=
  LogFilter.written (setting.getD LogFilter.defaultSetting) run.log.toList

end HeadlessRun

namespace Headless

def patrol : Program Float32 :=
  [ .print "Starting patrol",
    .setDriveVelocity 75,
    .repeatCount 4
      [.drive .forward 300 .mm, .turn .right 90, .wait 0.5],
    .turnToRotation 0 ]

inductive SeedError where
  | empty
  | invalidDigit
  | tooLarge
deriving DecidableEq, Repr

namespace SeedError

def message : SeedError → String
  | empty => "cannot parse integer from empty string"
  | invalidDigit => "invalid digit found in string"
  | tooLarge => "number too large to fit in target type"

end SeedError

/--
The number below `2 ^ 64` that digits spell. Digits are taken in order, so of a number that is too
large and a character that is no digit the first one counts.
-/
def seedOfDigits : (value : Nat) → List Char → Except SeedError UInt64
  | value, [] => .ok (UInt64.ofNat value)
  | value, c :: later =>
    match Digit.ofChar? c with
    | none => .error .invalidDigit
    | some d =>
      let value := 10 * value + d.val
      if value < Nat.pow 2 64 then seedOfDigits value later else .error .tooLarge

def seedOfText (text : String) : Except SeedError UInt64 :=
  match text.toList with
  | [] => .error .empty
  | ['+'] => .error .invalidDigit
  | '+' :: digits => seedOfDigits 0 digits
  | digits => seedOfDigits 0 digits

structure State where
  controller : Controller Float32
  log : Array LogLine
  report : Option (RunReport Float32) := none
  elapsed : Float32 := 0

namespace State

def write (s : State) (level : Level) (text : String) : State :=
  { s with log := s.log.push { level, source := .headless, text } }

def follow (s : State) (c : Controller Float32) : State :=
  let lines := c.journal.filterMap fun
    | .notice notice => some notice.toLine
    | .event _ | .report .. => none
  { s with controller := { c with journal := #[] }, log := s.log ++ lines }

def event (s : State) : GameEvent Float32 → State
  | .trashSpawned id => s.write .debug s!"Trash #{id} spawned"
  | .trashCollected id total => s.write .info s!"Picked up trash #{id} ({total} total)"
  | .coralHit index => s.write .warn s!"Hit coral #{index}"
  | .runFinished report =>
    { s.write .info ("Finished: " ++ report.outcome.describe) with report := some report }

def drain (s : State) : State :=
  let (events, c) := s.controller.drainEvents
  events.foldl event (s.follow c)

/-- Runs timesteps until the program ends or the time is up, at most `ticks` of them. -/
def loop : (ticks : Nat) → State → State
  | 0, s => s.drain
  | ticks + 1, s =>
    let s := s.drain
    if !s.controller.isRunning then
      s
    else if Tuning.runTimeLimit ≤ s.elapsed then
      let s := s.write .warn "Time limit of 120s reached, stopping"
      (s.follow s.controller.stop).drain
    else
      let s := s.follow (s.controller.tick Tuning.timestep)
      loop ticks { s with elapsed := s.elapsed + Tuning.timestep }

def finish (s : State) : HeadlessRun :=
  match s.report with
  | none =>
    let line := { level := .error, source := .program, text := "run ended without a report" }
    { log := s.log.push line, report := none }
  | some report =>
    let robot := s.controller.robot
    let s := s.write .info <|
      "Robot at (" ++ fixed 1 robot.x ++ ", " ++ fixed 1 robot.y ++ ") facing "
        ++ fixed 1 robot.rotation ++ " after " ++ fixed 2 s.elapsed ++ "s"
    { log := s.log, report := some report }

def startProgram (s : State) : ProgramSource → Except String State
  | .patrol =>
    let s := s.write .info "No program given, running the built-in patrol"
    .ok (s.follow (s.controller.start patrol).2)
  | .file _ (.error e) => .error e.message
  | .file name (.ok text) =>
    let s := s.write .info ("Loaded " ++ name)
    let (result, c) := s.controller.startText text
    let s := s.follow c
    match result with
    | .ok () => .ok s
    | .error e => .ok (s.write .error (name ++ ": " ++ e.message))

end State

/-- More timesteps than a run within the time limit can take. -/
def tickLimit : Nat := 30000

/--
A headless run. The seed is a text if one is set, and otherwise the session's own; the log is
complete, whatever is shown of it.
-/
def run (seed : Option String) (session : UInt64) (source : ProgramSource) : HeadlessRun :=
  let log := #[{ level := .info, source := .program, text := "Ocean Bot (native) starting..." }]
  let failed (log : Array LogLine) (reason : String) : HeadlessRun :=
    { log := log.push { level := .error, source := .program, text := reason }, report := none }
  match seed.mapM seedOfText with
  | .error e => failed log e.message
  | .ok seed =>
    let controller := Controller.new { Settings.defaults with seed } session
    let s := State.follow { controller, log } controller
    match s.startProgram source with
    | .error reason => failed s.log reason
    | .ok s => (s.loop tickLimit).finish

end Headless

end ReefRover
