import ReefRover.Proofs.Run.Command
import ReefRover.Proofs.Run.News

/-!
This module contains the moves that commands are made of: beats, starts of runs, clean-ups, and
taking events out.
-/

namespace ReefRover

variable {R : Type}

namespace Controller

theorem beats_stop (c : Controller R) : c.Beats c.stop :=
  c.beats_finish nofun

variable [Scalar R]

def launched (c : Controller R) (script : Script R) : Controller R :=
  { c with
    rig := .atRest c.ocean.center
    game := { isSpawningTrash := c.settings.trashSpawning }
    ocean := { c.ocean.clearTrash with spawnTimer := c.settings.effectiveSpawnInterval }
    accumulator := Scalar.zero
    run := some { interpreter := { script }, clock := Scalar.zero }
    phase := .running }

def wiped (c : Controller R) (ocean : Ocean R) : Controller R :=
  { c with
    settings := { c.settings with layout := ocean.layout }
    rig := .atRest ocean.center
    game := {}
    ocean
    accumulator := Scalar.zero
    phase := .idle }

/--
What a command makes of a controller, taken apart. It is counted how many runs begin, and recorded
which events are taken out.
-/
inductive Move (c : Controller R) : Nat → List (GameEvent R) → Controller R → Prop where
  | beats {c' : Controller R} (hbeat : c.Beat c') : Move c 0 [] c'
  | begins (script : Script R) {notice : Notice R} (hnotice : notice.startsRun = true)
      (hrunning : c.isRunning = false) :
    Move c 1 [] ((c.launched script).note notice)
  | wipes {ocean : Ocean R} (hrun : c.run = none) (htrash : ocean.trash = [])
      (hnextId : ocean.nextId = c.ocean.nextId) :
    Move c 0 [] (c.wiped ocean)
  | drains : Move c 0 c.events.toList { c with events := #[] }

inductive Moves (c : Controller R) : Nat → List (GameEvent R) → Controller R → Prop where
  | refl : Moves c 0 [] c
  | tail {begun begun' : Nat} {taken taken' : List (GameEvent R)} {c' c'' : Controller R}
      (hmoves : Moves c begun taken c') (hmove : c'.Move begun' taken' c'') :
    Moves c (begun + begun') (taken ++ taken') c''

variable {c c' c'' : Controller R} {begun begun' : Nat} {taken taken' : List (GameEvent R)}

theorem Move.moves (h : c.Move begun taken c') : c.Moves begun taken c' := by
  have hmoves := Moves.tail .refl h
  rw [Nat.zero_add] at hmoves
  exact hmoves

namespace Moves

theorem trans (h : c.Moves begun taken c') (h' : c'.Moves begun' taken' c'') :
    c.Moves (begun + begun') (taken ++ taken') c'' := by
  induction h' with
  | refl =>
    rw [List.append_nil]
    exact h
  | tail _ hmove ih =>
    rw [← Nat.add_assoc, ← List.append_assoc]
    exact ih.tail hmove

theorem beats (h : c.Moves begun taken c') (hbeats : c'.Beats c'') : c.Moves begun taken c'' := by
  induction hbeats with
  | refl => exact h
  | tail _ hbeat ih =>
    have hmoves := ih.tail (.beats hbeat)
    rw [List.append_nil] at hmoves
    exact hmoves

end Moves

theorem Beats.moves (h : c.Beats c') : c.Moves 0 [] c' :=
  Moves.refl.beats h

theorem moves_note (c : Controller R) {notice : Notice R} (hnotice : notice.startsRun = false) :
    c.Moves 0 [] (c.note notice) :=
  (Beat.notes hnotice).beats.moves

theorem moves_start (c : Controller R) (program : Program R) :
    c.Moves (!c.isRunning).toNat [] (c.start program).2 := by
  unfold start
  cases hrunning : c.isRunning with
  | true => exact c.moves_note rfl
  | false => exact (Move.begins (Script.ofProgram program) rfl hrunning).moves

theorem moves_startDecoded (c : Controller R)
    (decoded : Except Json.DecodeError (Program R)) :
    c.Moves (!c.isRunning).toNat [] (c.startDecoded decoded).2 := by
  rcases c.startDecoded_cases decoded with ⟨program, heq⟩ | ⟨outcome, houtcome, heq⟩
  . rw [heq]
    exact c.moves_start program
  . rw [heq]
    exact (c.moves_start []).beats (beats_finish _ houtcome)

theorem reset_eq (hlayout : c.stop.ocean.layout = c.stop.settings.layout) :
    c.reset = c.stop.wiped c.stop.ocean.clearTrash := by
  have hsettings : { c.stop.settings with layout := c.stop.ocean.clearTrash.layout } =
      c.stop.settings := by
    unfold Ocean.clearTrash
    dsimp only
    rw [hlayout]
  unfold reset wiped
  rw [hsettings]
  rfl

end Controller

end ReefRover
