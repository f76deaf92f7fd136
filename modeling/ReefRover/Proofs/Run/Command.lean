import ReefRover.Run.Controller

/-!
This module contains histories of commands: what a host does with a controller one after the other,
how many runs that begins, and which events it takes out.
-/

namespace ReefRover

variable {R : Type}

inductive Command (R : Type) where
  | start (program : Program R)
  /-- A start from text, given by what the text decodes to. -/
  | startDecoded (decoded : Except Json.DecodeError (Program R))
  | stop
  | reset
  | clear
  | setLayout (layout : Layout)
  | listen
  | tick (dt : R)
  | advance (frame : R)
  | drainEvents

namespace Controller

variable [Scalar R]

def obey (c : Controller R) : Command R → Controller R
  | .start program => (c.start program).2
  | .startDecoded decoded => (c.startDecoded decoded).2
  | .stop => c.stop
  | .reset => c.reset
  | .clear => c.clear
  | .setLayout layout => (c.setLayout layout).2
  | .listen => c.listen.2
  | .tick dt => c.tick dt
  | .advance frame => (c.advance frame).2
  | .drainEvents => c.drainEvents.2

def after (c : Controller R) (commands : List (Command R)) : Controller R :=
  commands.foldl obey c

theorem after_induction {P : Controller R → Prop} {commands : List (Command R)}
    (hobey : ∀ c, P c → ∀ command ∈ commands, P (c.obey command)) {c : Controller R} (hc : P c) :
    P (c.after commands) :=
  List.foldlRecOn commands obey hc hobey

/-- Whether a command begins a run. A program that did not decode counts as a run as well. -/
def begins (c : Controller R) : Command R → Bool
  | .start program => (c.start program).1.isOk
  | .startDecoded (.ok program) => (c.start program).1.isOk
  | .startDecoded (.error _) => !c.isRunning
  | .stop | .reset | .clear | .setLayout _ | .listen | .tick _ | .advance _ | .drainEvents => false

def begun (c : Controller R) : List (Command R) → Nat
  | [] => 0
  | command :: commands => (c.begins command).toNat + (c.obey command).begun commands

def takes (c : Controller R) : Command R → List (GameEvent R)
  | .clear => c.reset.events.toList
  | .drainEvents => c.drainEvents.1.toList
  | .start _ | .startDecoded _ | .stop | .reset | .setLayout _ | .listen | .tick _ | .advance _ =>
    []

def taken (c : Controller R) : List (Command R) → List (GameEvent R)
  | [] => []
  | command :: commands => c.takes command ++ (c.obey command).taken commands

/--
The controller right after a command has ended the run, if it does. A reset goes on from there to
clean up.
-/
def teardown (c : Controller R) : Command R → Controller R
  | .reset | .clear => c.stop
  | command => c.obey command

theorem begins_start (c : Controller R) (program : Program R) :
    c.begins (.start program) = !c.isRunning := by
  unfold begins start
  cases c.isRunning with
  | true => rfl
  | false => rfl

theorem begins_startDecoded (c : Controller R)
    (decoded : Except Json.DecodeError (Program R)) :
    c.begins (.startDecoded decoded) = !c.isRunning := by
  cases decoded with
  | ok program => exact c.begins_start program
  | error e => rfl

theorem startDecoded_cases (c : Controller R) (decoded : Except Json.DecodeError (Program R)) :
    (∃ program, (c.startDecoded decoded).2 = (c.start program).2) ∨
      ∃ outcome, outcome ≠ .collision ∧
        (c.startDecoded decoded).2 = (c.start []).2.finish outcome := by
  cases decoded with
  | ok program => exact .inl ⟨program, rfl⟩
  | error e =>
    unfold startDecoded
    dsimp only
    cases hrunning : c.isRunning with
    | true =>
      -- both starts are refused, whatever the program
      refine .inl ⟨[], ?_⟩
      unfold start
      rw [hrunning]
      rfl
    | false => exact .inr ⟨.failed (.malformed e.message), nofun, rfl⟩

end Controller

end ReefRover
