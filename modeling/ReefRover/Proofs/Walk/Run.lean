import ReefRover.Proofs.Walk.Step

/-!
This module contains whole walks. A timestep of a walk is a sequence of steps, which ends since each
step that does not halt makes the walk lighter. A session is what happens to a walk over time: its
run is cancelled, the robot's motion goes on, or the walk has a timestep.
-/

namespace ReefRover

variable {R : Type}

namespace Walker

def weight (w : Walker R) : Nat :=
  (w.tasks.map Task.weight).sum

theorem outsideLoop?_suffix {stack rest : List (Task R)} (h : outsideLoop? stack = some rest) :
    rest <:+ stack := by
  induction stack with
  | nil => cases h
  | cons task stack ih =>
    rw [outsideLoop?] at h
    split at h
    . cases h
      exact List.suffix_cons _ _
    . exact (ih h).trans (List.suffix_cons _ _)

theorem weight_of_suffix {stack rest : List (Task R)} (h : rest <:+ stack) :
    (rest.map Task.weight).sum ≤ (stack.map Task.weight).sum := by
  obtain ⟨inner, rfl⟩ := h
  rw [List.map_append, List.sum_append]
  omega

end Walker

variable [Scalar R]

theorem Op.Opens.todo_mem {op : Op R} {task : Task R} (h : op.Opens task) :
    task.todo ∈ op.bodies := by
  cases h with
  | branch hloop hbody => exact hbody
  | repeatTimes | forever | repeatUntil | whileDo => exact List.mem_cons_self

theorem Op.Opens.weight_lt {op : Op R} {task : Task R} (h : op.Opens task) :
    task.weight < 3 * op.size := by
  have hsize := Program.size_lt_of_mem_bodies h.todo_mem
  have hweight := task.weight_le
  omega

namespace Walker

theorem Executes.weight_lt {w w' : Walker R} {around : Surroundings R} {op : Op R} {flow : Flow}
    (h : w.Executes around op flow w') : w'.weight < w.weight + 3 * op.size := by
  have hsize : 0 < op.size := by
    unfold Op.size
    omega
  -- the block itself is already off the stack, so what it opens has to be lighter than it was
  cases h with
  | acts h =>
    next outcome =>
      cases outcome <;> simp only [take, weight] <;> omega
  | passes => omega
  | opens h =>
    have := h.weight_lt
    simp only [weight, List.map_cons, List.sum_cons]
    omega
  | waits h =>
    simp only [weight]
    omega
  | breaks h =>
    have := weight_of_suffix (outsideLoop?_suffix h)
    simp only [weight] at this ⊢
    omega
  | stops =>
    simp only [weight, List.map_nil, List.sum_nil]
    omega

theorem executes_of_proceed {w w' : Walker R} {around : Surroundings R} {op : Op R}
    {tasks : List (Task R)} (h : w.proceed around op tasks = (w', none)) :
    Executes { w with tasks } around op .next w' := by
  unfold proceed at h
  dsimp only at h
  split at h
  . next hexec =>
    cases h
    exact executes_of_exec hexec
  all_goals cases h

theorem tasks_of_endIteration {w w' : Walker R} {loop : Loop R} {body : List (Op R)}
    {rest : List (Task R)} (h : w.endIteration loop body rest = (w', none)) : w'.tasks = rest := by
  unfold endIteration at h
  split at h
  . split at h
    . cases h
      rfl
    . cases h
  . cases h
  . cases h

theorem step_weight_lt {w w' : Walker R} {around : Surroundings R}
    (h : w.step around = (w', none)) : w'.weight < w.weight := by
  unfold step at h
  split at h
  . cases h
  . next htasks =>
    cases h
    simp [weight, htasks, Task.weight]
  . next op todo rest htasks =>
    have := (executes_of_proceed h).weight_lt
    simp only [weight, htasks, Task.weight, List.map_cons, List.sum_cons, Program.size_cons]
      at this ⊢
    omega
  . next htasks =>
    have := tasks_of_endIteration h
    simp only [weight, htasks, this, Task.weight, List.map_cons, List.sum_cons, Program.size_nil]
    omega
  . next op todo loop body rest htasks =>
    have := (executes_of_proceed h).weight_lt
    simp only [weight, htasks, Task.weight, List.map_cons, List.sum_cons, Program.size_cons]
      at this ⊢
    omega
  . next guard body rest htasks =>
    dsimp only at h
    split at h
    . cases h
      simp only [weight, htasks, Task.weight, List.map_cons, List.sum_cons]
      omega
    . cases h
      simp only [weight, htasks, Task.weight, List.map_cons, List.sum_cons]
      omega
    . cases h

def run (w : Walker R) (around : Surroundings R) :
    Walker R × Except (ExecutionError R) Progress :=
  match _h : w.step around with
  | (w', none) => w'.run around
  | (w', some result) => (w', result)
termination_by w.weight
decreasing_by exact step_weight_lt _h

theorem run_of_next {w w' : Walker R} {around : Surroundings R}
    (h : w.step around = (w', none)) : w.run around = w'.run around := by
  rw [run]
  split
  . next heq =>
    rw [h] at heq
    cases heq
    rfl
  . next heq =>
    rw [h] at heq
    cases heq

theorem run_of_halt {w w' : Walker R} {around : Surroundings R}
    {result : Except (ExecutionError R) Progress} (h : w.step around = (w', some result)) :
    w.run around = (w', result) := by
  rw [run]
  split
  . next heq =>
    rw [h] at heq
    cases heq
  . next heq =>
    rw [h] at heq
    cases heq
    rfl

def serve (w : Walker R) (around : Surroundings R) (dt : R) :
    Except (ExecutionError R) (Option (Pause R)) :=
  match w.pause with
  | .nothing | .nextTick => .ok none
  | .motion => .ok (if w.toRig.isMoving then some .motion else none)
  | .sleep left =>
    .ok (if Tuning.timeTolerance < left - dt then some (.sleep (left - dt)) else none)
  | .poll condition left =>
    if Tuning.timeTolerance < left - dt then
      .ok (some (.poll condition (left - dt)))
    else
      (w.test around condition "waitUntil").map fun holds =>
        if holds then none else some (.poll condition Tuning.pollInterval)

def advance (w : Walker R) (around : Surroundings R) (dt : R) :
    Walker R × Except (ExecutionError R) Progress :=
  let w := { w with console := #[] }
  if w.cancelled then
    (w, .ok .cancelled)
  else if w.tasks.isEmpty then
    (w, .ok .finished)
  else
    match w.serve around dt with
    | .error e => (w, .error e)
    | .ok (some pause) => ({ w with pause }, .ok .pending)
    | .ok none => { w with pause := .nothing }.run around

def start (p : Program R) (robot : Robot R) : Walker R :=
  { robot, tasks := [.block p] }

end Walker

inductive Event (R : Type) where
  | cancel
  | animate (dt : R)
  | advance (around : Surroundings R) (dt : R)

namespace Walker

def handle (w : Walker R) : Event R → Walker R
  | .cancel => { w with toRig := w.toRig.cancel }
  | .animate dt => { w with toRig := (w.toRig.step dt).2 }
  | .advance around dt => (w.advance around dt).1

def after (w : Walker R) (events : List (Event R)) : Walker R :=
  events.foldl handle w

end Walker

namespace Machine

def launch (script : Script R) (robot : Robot R) : Machine R :=
  { script, robot }

def handle (m : Machine R) : Event R → Machine R
  | .cancel => m.withRig m.toRig.cancel
  | .animate dt => m.withRig (m.toRig.step dt).2
  | .advance around dt => (m.advance around dt).1

def after (m : Machine R) (events : List (Event R)) : Machine R :=
  events.foldl handle m

end Machine

end ReefRover
