import ReefRover.Machine.Exec

/-!
This module contains the timestep of a program: the pending wait is served, and then instructions
are executed until the next suspension. An iteration of a loop ends in a suspension or leaves the
loop, so a timestep executes each instruction at most once.
-/

namespace ReefRover

inductive Step (R : Type) where
  | next (m : Machine R)
  | halt (m : Machine R) (result : Except (ExecutionError R) Progress)

namespace Machine

variable {R : Type} [Scalar R]

def keepsLooping (m : Machine R) (around : Surroundings R) (kind : FrameKind) :
    Except (ExecutionError R) Bool :=
  match kind with
  | .loop (.untilTrue condition) => (m.test around condition "repeatUntil").map not
  | .loop (.whileTrue condition) => m.test around condition "while"
  | .block | .loop (.times _) | .loop .forever => .ok true

def nextIteration (m : Machine R) (frame : Frame) (below : List Frame) (wait : Wait R) : Step R :=
  .halt { m with frames := { frame with next := 0 } :: below, wait } (.ok .pending)

/-- What happens at the end of a body. A branch or a loop that is over is left. -/
def endBody (m : Machine R) (frame : Frame) (below : List Frame) : Step R :=
  match frame.kind with
  | .block => .next { m with frames := below }
  | .loop (.times remaining) =>
    if remaining ≤ 1 then
      .next { m with frames := below }
    else
      m.nextIteration { frame with kind := .loop (.times (remaining - 1)) } below .nextTick
  | .loop .forever => m.nextIteration frame below (.sleep Tuning.foreverYield)
  | .loop (.untilTrue _) | .loop (.whileTrue _) =>
    m.nextIteration { frame with checkPending := true } below .nextTick

/--
One step: a loop condition is tested, a body is left, or an instruction is executed. A `break`
without a loop around it leaves no frame behind.
-/
def step (m : Machine R) (around : Surroundings R) : Step R :=
  match m.frames with
  | [] => .halt m (.ok .finished)
  | frame :: below =>
    if frame.checkPending then
      let m := { m with frames := { frame with checkPending := false } :: below }
      match m.keepsLooping around frame.kind with
      | .ok true => .next m
      | .ok false => .next { m with frames := below }
      | .error e => .halt m (.error e)
    else
      match (m.script.body frame.body)[frame.next]? with
      | none => m.endBody frame below
      | some instr =>
        let m := { m with frames := { frame with next := frame.next + 1 } :: below }
        match m.exec around instr with
        | .ok (.next, m) => .next m
        | .ok (.suspend, m) => .halt m (.ok .pending)
        | .ok (.stop, m) => .halt m (.ok .stopped)
        | .error .breakOutsideLoop => .halt { m with frames := [] } (.error .breakOutsideLoop)
        | .error e => .halt m (.error e)

/-- Steps until the program halts for this timestep, at most `budget` times. -/
def run (around : Surroundings R) : (budget : Nat) → Machine R →
    Machine R × Except (ExecutionError R) Progress
  | 0, m => (m, .ok .pending)
  | budget + 1, m =>
    match m.step around with
    | .next m => run around budget m
    | .halt m result => (m, result)

/--
More steps than a timestep can take: each instruction is executed at most once and enters at most
one body, and each frame is checked and left at most once.
-/
def budget (m : Machine R) : Nat :=
  3 * (m.script.instrCount + m.frames.length) + 1

/-- Serves the pending wait: what to go on waiting for, or nothing if the program may go on. -/
def serve (m : Machine R) (around : Surroundings R) (dt : R) :
    Except (ExecutionError R) (Option (Wait R)) :=
  match m.wait with
  | .nothing | .nextTick => .ok none
  | .motion => .ok (if m.toRig.isMoving then some .motion else none)
  | .sleep left =>
    let left := left - dt
    .ok (if Tuning.timeTolerance < left then some (.sleep left) else none)
  | .poll condition left => do
    let left := left - dt
    if Tuning.timeTolerance < left then
      return some (.poll condition left)
    else
      let holds ← m.test around condition "waitUntil"
      return if holds then none else some (.poll condition Tuning.pollInterval)

def advance (m : Machine R) (around : Surroundings R) (dt : R) :
    Machine R × Except (ExecutionError R) Progress :=
  let m := { m with console := #[] }
  if m.cancelled then
    (m, .ok .cancelled)
  else if m.isDone then
    (m, .ok .finished)
  else
    match m.serve around dt with
    | .error e => (m, .error e)
    | .ok (some wait) => ({ m with wait }, .ok .pending)
    | .ok none => run around m.budget { m with wait := .nothing }

/-- One timestep of `dt` seconds: the robot's motion goes on, and then the program does. -/
def tick (m : Machine R) (around : Surroundings R) (dt : R) :
    Machine R × Except (ExecutionError R) Progress :=
  (m.withRig (m.toRig.step dt).2).advance around dt

end Machine

end ReefRover
