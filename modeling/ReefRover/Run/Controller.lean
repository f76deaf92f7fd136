import ReefRover.Json.Decode
import ReefRover.Machine.Tick
import ReefRover.Ocean.Observe
import ReefRover.Ocean.Reef
import ReefRover.Ocean.Tick
import ReefRover.Run.Notice

/-!
This module contains the run controller. It owns the robot, the ocean and the program that is
running. In every timestep the robot moves, its new pose is looked at, the program goes on to its
next suspension, and the pose is looked at again if the program changed it.
-/

namespace ReefRover

open Json (DecodeError)

inductive ControlError where
  | alreadyRunning
  | busy
  | badProgram (error : DecodeError)

namespace ControlError

def message : ControlError → String
  | alreadyRunning => "a program is already running"
  | busy => "cannot change the layout while a program is running"
  | badProgram error => "malformed program: " ++ error.message

end ControlError

inductive Entry (R : Type) where
  | notice (notice : Notice R)
  | event (event : GameEvent R)
  | report (listener : Nat) (report : RunReport R)
deriving DecidableEq, Repr

structure ActiveRun (R : Type) where
  interpreter : Interpreter R
  /-- Seconds since the start. -/
  clock : R
deriving DecidableEq, Repr

structure Controller (R : Type) where
  settings : Settings R
  rig : Rig R
  game : GameState
  ocean : Ocean R
  phase : RunPhase R
  run : Option (ActiveRun R)
  /-- Host time that no timestep has used up yet. -/
  accumulator : R
  events : Array (GameEvent R)
  /-- The number of listeners, which are told about the end of every run. -/
  listeners : Nat
  /-- All that was noted, that happened and that was reported, in order. -/
  journal : Array (Entry R)

namespace Controller

variable {R : Type} [Scalar R]

def isRunning (c : Controller R) : Bool :=
  c.phase.isRunning

def robot (c : Controller R) : Robot R :=
  c.rig.robot

def runClock (c : Controller R) : Option R :=
  c.run.map ActiveRun.clock

def note (c : Controller R) (notice : Notice R) : Controller R :=
  { c with journal := c.journal.push (.notice notice) }

def emit (c : Controller R) (event : GameEvent R) : Controller R :=
  { c with events := c.events.push event, journal := c.journal.push (.event event) }

def report (c : Controller R) (report : RunReport R) : Controller R :=
  let told := (List.range c.listeners).map fun listener => Entry.report listener report
  { c with journal := c.journal ++ told.toArray }

def growReef (c : Controller R) : Controller R :=
  let ocean := c.ocean.growReef
  { c with ocean }.note (.reefGenerated ocean.coral.length ocean.layout)

/-- A controller with a reef and no program. The session's seed counts if the settings have none. -/
def new (settings : Settings R) (session : UInt64) : Controller R :=
  let seed := settings.seed.getD session
  let ocean := Ocean.empty settings.layout seed
  let c : Controller R :=
    { settings
      rig := .atRest ocean.center
      game := {}
      ocean
      phase := .idle
      run := none
      accumulator := Scalar.zero
      events := #[]
      listeners := 0
      journal := #[] }
  c.growReef.note (.ready settings.layout seed)

/-! ### The end of a run -/

/--
Ends the run, tells the outcome and hands out the report. Nothing happens if there is no run, so
each run ends once.
-/
def finish (c : Controller R) (outcome : RunOutcome R) : Controller R :=
  match c.run with
  | none => c
  | some _ =>
    let game := { c.game with isSpawningTrash := false }
    let game := if outcome.isLoss then game.lose else game
    let report : RunReport R := { outcome, trashCollected := game.trashCollected }
    let c := { c with run := none, rig := { c.rig with motion := none, cancelled := true }, game }
    let c := c.note (.runEnded outcome)
    ({ c with phase := .finished outcome }.emit (.runFinished report)).report report

/-! ### Commands -/

def start (c : Controller R) (program : Program R) : Except ControlError Unit × Controller R :=
  if c.isRunning then
    (.error .alreadyRunning, c.note .startRefused)
  else
    let script := Script.ofProgram program
    let ocean :=
      { c.ocean.clearTrash with spawnTimer := c.settings.effectiveSpawnInterval }
    let c :=
      { c with
        rig := .atRest c.ocean.center
        game := { isSpawningTrash := c.settings.trashSpawning }
        ocean
        accumulator := Scalar.zero
        run := some { interpreter := { script }, clock := Scalar.zero }
        phase := .running }
    (.ok (), c.note (.runStarted script.instrCount script.bodyCount))

/--
Starts a program that had to be decoded. One that did not decode counts as a run as well: it fails
at once.
-/
def startDecoded (c : Controller R) (decoded : Except DecodeError (Program R)) :
    Except ControlError Unit × Controller R :=
  match decoded with
  | .ok program => c.start program
  | .error e =>
    if c.isRunning then
      (.error .alreadyRunning, c.note .startRefused)
    else
      (.error (.badProgram e), (c.start []).2.finish (.failed (.malformed e.message)))

def stop (c : Controller R) : Controller R :=
  c.finish .stopped

def reset (c : Controller R) : Controller R :=
  let c := c.stop
  { c with
    rig := .atRest c.ocean.center
    game := {}
    ocean := c.ocean.clearTrash
    accumulator := Scalar.zero
    phase := .idle }

def clear (c : Controller R) : Controller R :=
  { c.reset with events := #[] }

def setLayout (c : Controller R) (layout : Layout) : Except ControlError Unit × Controller R :=
  if c.isRunning then
    (.error .busy, c.note .layoutRefused)
  else
    let c :=
      { c with settings := { c.settings with layout }, ocean := { c.ocean with layout } }
    (.ok (), c.growReef.reset.note (.layoutSet layout))

def listen (c : Controller R) : Nat × Controller R :=
  (c.listeners, { c with listeners := c.listeners + 1 })

def drainEvents (c : Controller R) : Array (GameEvent R) × Controller R :=
  (c.events, { c with events := #[] })

/-! ### Time -/

def tickOcean (c : Controller R) (dt : R) : Controller R :=
  let (spawned, ocean) := c.ocean.tick c.settings c.game.isSpawningTrash dt
  let c := { c with ocean }
  match spawned with
  | some id => (c.note (.trashSpawned id)).emit (.trashSpawned id)
  | none => c

def pickUp (c : Controller R) (pickup : Pickup) : Controller R :=
  (c.note (.trashCollected pickup.id pickup.total)).emit
    (.trashCollected pickup.id pickup.total)

/-- Looks at the robot's pose. Tells whether coral ends the run. -/
def observe (c : Controller R) : Bool × Controller R :=
  let seen := c.ocean.observe c.game c.robot.position
  let c := { c with ocean := seen.ocean, game := seen.game }
  let c := seen.pickups.foldl pickUp c
  match seen.contact with
  | some contact =>
    if c.isRunning then
      let c := c.note (.coralHit contact.index c.robot.x c.robot.y)
      (true, c.emit (.coralHit contact.index))
    else
      (false, c)
  | none => (false, c)

def observeIfMoved (c : Controller R) (before : Pose R) : Bool × Controller R :=
  if c.robot.pose == before then (false, c) else c.observe

def moveRobot (c : Controller R) (dt : R) : Controller R :=
  { c with rig := (c.rig.step dt).2 }

def runProgram (c : Controller R) (run : ActiveRun R) (dt : R) :
    Except (ExecutionError R) Progress × Controller R :=
  let around : Surroundings R := { scale := c.ocean.layout.factor, clock := run.clock }
  let machine : Machine R := { toInterpreter := run.interpreter, toRig := c.rig }
  let (machine, result) := machine.advance around dt
  let c :=
    { c with rig := machine.toRig, run := some { run with interpreter := machine.toInterpreter } }
  (result, machine.console.foldl (fun c text => c.note (.console text)) c)

def settle (c : Controller R) : Except (ExecutionError R) Progress → Controller R
  | .ok .pending | .ok .cancelled => c
  | .ok .finished => c.finish .completed
  | .ok .stopped => c.finish .stopped
  | .error e => c.finish (.failed e)

def tick (c : Controller R) (dt : R) : Controller R :=
  let c := c.tickOcean dt
  match c.run with
  | none => c
  | some run =>
    let run := { run with clock := run.clock + dt }
    let before := c.robot.pose
    let c := { c with run := some run }.moveRobot dt
    match c.observeIfMoved before with
    | (true, c) => c.finish .collision
    | (false, c) =>
      let before := c.robot.pose
      let (result, c) := c.runProgram run dt
      match c.observeIfMoved before with
      | (true, c) => c.finish .collision
      | (false, c) => c.settle result

/-- Runs at most so many timesteps, as long as there is host time for them. Counts them. -/
def substeps : (most : Nat) → Controller R → Nat × Controller R
  | 0, c => (0, c)
  | most + 1, c =>
    if Tuning.timestep ≤ c.accumulator then
      let c := c.tick Tuning.timestep
      let (count, c) :=
        substeps most { c with accumulator := c.accumulator - Tuning.timestep }
      (count + 1, c)
    else
      (0, c)

/--
Takes in a host frame and runs the timesteps that it makes due, a limited number of them. Host time
beyond that is dropped. Tells how many timesteps ran.
-/
def advance (c : Controller R) (frame : R) : Nat × Controller R :=
  if Scalar.zero < frame then
    let c := { c with accumulator := c.accumulator + Scalar.lesser frame Tuning.maxFrame }
    let (count, c) := substeps Tuning.maxSubsteps c
    if count = Tuning.maxSubsteps then
      (count, { c with accumulator := Scalar.lesser c.accumulator Tuning.timestep })
    else
      (count, c)
  else
    (0, c)

end Controller

end ReefRover
