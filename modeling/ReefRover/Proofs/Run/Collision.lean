import ReefRover.Proofs.Ocean.Coral
import ReefRover.Proofs.Run.News

/-!
This module contains how a timestep ends in which the robot runs into coral: what lies there is
collected, the collision is reported, and the program does not get its turn.
-/

namespace ReefRover

variable {R : Type}

def Pickup.event (pickup : Pickup) : GameEvent R :=
  .trashCollected pickup.id pickup.total

namespace Controller

def withRun (c : Controller R) (run : Option (ActiveRun R)) : Controller R :=
  { c with run }

theorem finish_withRun {c : Controller R} (hrun : c.run.isSome = true) (run : ActiveRun R)
    (outcome : RunOutcome R) : (c.withRun (some run)).finish outcome = c.finish outcome := by
  rw [finish_eq rfl, finish_eq hrun]
  rfl

theorem log_foldl_pickUp (c : Controller R) (pickups : List Pickup) :
    (pickups.foldl pickUp c).log = c.log ++ pickups.map Pickup.event := by
  apply foldl_appended pickUp log
  intro c pickup
  unfold pickUp
  rw [log_emit, log_note]
  rfl

theorem foldl_pickUp_withRun (c : Controller R) (pickups : List Pickup)
    (run : Option (ActiveRun R)) :
    pickups.foldl pickUp (c.withRun run) = (pickups.foldl pickUp c).withRun run :=
  List.foldl_hom (withRun · run) fun _ _ => rfl

variable [Scalar R]

def seen (c : Controller R) : Observation R :=
  c.ocean.observe c.game c.robot.position

def spawnedIn (c : Controller R) (dt : R) : List UInt32 :=
  (c.ocean.tick c.settings c.game.isSpawningTrash dt).1.toList

theorem log_moved (c : Controller R) (run : ActiveRun R) (dt : R) :
    (c.moved run dt).log = c.log ++ (c.spawnedIn dt).map .trashSpawned := by
  have hmoved : (c.moved run dt).log = (c.tickOcean dt).log := rfl
  rw [hmoved]
  unfold tickOcean spawnedIn
  dsimp only
  cases (c.ocean.tick c.settings c.game.isSpawningTrash dt).1 with
  | none => exact (List.append_nil _).symm
  | some id =>
    rw [log_emit, log_note]
    rfl

theorem game_moved (c : Controller R) (run : ActiveRun R) (dt : R) :
    (c.moved run dt).game = c.game := by
  have hmoved : (c.moved run dt).game = (c.tickOcean dt).game := rfl
  rw [hmoved]
  unfold tickOcean
  dsimp only
  split
  . rfl
  . rfl

theorem log_collected (c : Controller R) :
    c.collected.log = c.log ++ c.seen.pickups.map Pickup.event :=
  log_foldl_pickUp _ _

theorem game_collected (c : Controller R) : c.collected.game = c.seen.game :=
  foldl_kept pickUp game (fun _ _ => rfl) _ _

theorem log_finish_crashed {c : Controller R} (hrun : c.run.isSome = true) (contact : Contact R) :
    ((c.crashed contact).finish .collision).log =
      c.log ++ c.seen.pickups.map Pickup.event ++
        [.coralHit contact.index,
          .runFinished
            { outcome := .collision, trashCollected := c.seen.game.trashCollected }] := by
  have hrun' : (c.crashed contact).run.isSome = true := by
    rw [← c.run_collected] at hrun
    exact hrun
  have hgame : (c.crashed contact).game = c.seen.game := c.game_collected
  have hlog : (c.crashed contact).log =
      c.log ++ c.seen.pickups.map Pickup.event ++ [.coralHit contact.index] := by
    unfold crashed
    rw [log_emit, log_note, log_collected]
  rw [(brings_finish hrun' .collision).log_eq, hlog, hgame, List.append_assoc]
  rfl

/-! ### The program has no part in it -/

theorem moved_withRun (c : Controller R) (run run' : ActiveRun R) (dt : R) :
    (c.withRun (some run')).moved run' dt = (c.moved run dt).withRun (some (run'.later dt)) := by
  have hocean : (c.withRun (some run')).tickOcean dt = (c.tickOcean dt).withRun (some run') := by
    unfold tickOcean withRun
    dsimp only
    split
    . rfl
    . rfl
  unfold moved
  rw [hocean]
  rfl

theorem crashed_withRun (c : Controller R) (run : Option (ActiveRun R)) (contact : Contact R) :
    (c.withRun run).crashed contact = (c.crashed contact).withRun run := by
  have hcollected : (c.withRun run).collected = c.collected.withRun run :=
    foldl_pickUp_withRun { c with ocean := c.seen.ocean, game := c.seen.game } c.seen.pickups run
  unfold crashed
  rw [hcollected]
  rfl

theorem tick_of_contact {c : Controller R} {run : ActiveRun R} {dt : R} {contact : Contact R}
    (hrun : c.run = some run) (hrunning : c.isRunning = true)
    (hpose : ((c.moved run dt).robot.pose == c.robot.pose) = false)
    (hcontact : (c.moved run dt).contact? = some contact) :
    c.tick dt = ((c.moved run dt).crashed contact).finish .collision := by
  have hrunning' : (c.moved run dt).isRunning = true := by
    rw [isRunning_moved]
    exact hrunning
  rw [tick_of_run hrun]
  unfold unlessCoral
  rw [observeIfMoved_of_contact hcontact hrunning' hpose]

/-- A timestep in which a run ends at coral, at the first look at where the robot has moved. -/
structure Crashes (c : Controller R) (run : ActiveRun R) (dt : R) (contact : Contact R) : Prop where
  isLowest : contact.IsLowest (c.rig.step dt).2.robot.position c.ocean.layout.factor c.ocean.coral
  phase_eq : (c.tick dt).phase = .finished .collision
  isGameOver : (c.tick dt).game.isGameOver = true
  gameLost : (c.tick dt).game.gameLost = true
  robot_eq : (c.tick dt).robot = (c.rig.step dt).2.robot
  log_eq : (c.tick dt).log =
    c.log ++ (c.spawnedIn dt).map .trashSpawned ++ (c.moved run dt).seen.pickups.map Pickup.event ++
      [.coralHit contact.index,
        .runFinished
          { outcome := .collision
            trashCollected := c.game.trashCollected +
              UInt32.ofNat (c.moved run dt).seen.pickups.length }]
  /-- No instruction is executed: with any other program under way it would be the same. -/
  tick_withRun : ∀ interpreter : Interpreter R,
    (c.withRun (some { run with interpreter })).tick dt = c.tick dt

theorem crashes_of_contact {c : Controller R} {run : ActiveRun R} {dt : R} {contact : Contact R}
    (hrun : c.run = some run) (hrunning : c.isRunning = true)
    (hpose : ((c.moved run dt).robot.pose == c.robot.pose) = false)
    (hcontact : (c.moved run dt).contact? = some contact) : c.Crashes run dt contact := by
  have htick := tick_of_contact hrun hrunning hpose hcontact
  have hrun' : ((c.moved run dt).crashed contact).run.isSome = true :=
    congrArg Option.isSome (run_collected _)
  have hfinish := finish_eq hrun' .collision
  have hlog := log_finish_crashed (c := c.moved run dt) rfl contact
  have hbearings := (c.moved run dt).bearings_collected
  constructor
  . apply Contact.isLowest_of_withCoral?
    unfold contact? at hcontact
    rw [bearings_moved] at hcontact
    exact hcontact
  . rw [htick, hfinish]
    rfl
  . rw [htick, hfinish]
    rfl
  . rw [htick, hfinish]
    rfl
  . rw [htick, hfinish, ← robot_moved c run dt]
    exact congrArg (fun bearings => bearings.rig.robot) hbearings
  . have htotal : (c.moved run dt).seen.game.trashCollected =
        (c.moved run dt).game.trashCollected +
          UInt32.ofNat (c.moved run dt).seen.pickups.length := rfl
    rw [htick, hlog, log_moved, htotal, game_moved]
  . intro interpreter
    let run' : ActiveRun R := { run with interpreter }
    have hmoved := c.moved_withRun run run' dt
    have hcontact' : ((c.withRun (some run')).moved run' dt).contact? = some contact := by
      rw [hmoved]
      exact hcontact
    have hpose' : (((c.withRun (some run')).moved run' dt).robot.pose == c.robot.pose) = false := by
      rw [hmoved]
      exact hpose
    have htick' : (c.withRun (some run')).tick dt = _ :=
      tick_of_contact rfl hrunning hpose' hcontact'
    rw [htick', hmoved, crashed_withRun, finish_withRun hrun', htick]

end Controller

end ReefRover
