import ReefRover.Run.Controller

/-!
This module contains what can be read off the journal of a controller: the events of all runs, which
of them belong to one run, and what each listener was told.
-/

namespace ReefRover

variable {R : Type}

namespace GameEvent

def spawned? : GameEvent R → Option UInt32
  | trashSpawned id => some id
  | trashCollected .. | coralHit _ | runFinished _ => none

def pickup? : GameEvent R → Option Pickup
  | trashCollected id total => some { id, total }
  | trashSpawned _ | coralHit _ | runFinished _ => none

def report? : GameEvent R → Option (RunReport R)
  | runFinished report => some report
  | trashSpawned _ | trashCollected .. | coralHit _ => none

def isTrash : GameEvent R → Bool
  | trashSpawned _ | trashCollected .. => true
  | coralHit _ | runFinished _ => false

end GameEvent

def Notice.startsRun : Notice R → Bool
  | runStarted .. => true
  | reefGenerated .. | ready .. | startRefused | layoutRefused | layoutSet _ | runEnded _
  | trashSpawned _ | trashCollected .. | coralHit .. | console _ => false

namespace Entry

def event? : Entry R → Option (GameEvent R)
  | event e => some e
  | notice _ | report .. => none

def told? (listener : Nat) : Entry R → Option (RunReport R)
  | report k r => if k = listener then some r else none
  | notice _ | event _ => none

def addEvent (runs : List (List (GameEvent R))) (e : GameEvent R) : List (List (GameEvent R)) :=
  runs.dropLast ++ [runs.getLast?.getD [] ++ [e]]

def record (runs : List (List (GameEvent R))) : Entry R → List (List (GameEvent R))
  | notice n => if n.startsRun then runs ++ [[]] else runs
  | event e => addEvent runs e
  | report .. => runs

theorem addEvent_append (past : List (List (GameEvent R))) (run : List (GameEvent R))
    (e : GameEvent R) : addEvent (past ++ [run]) e = past ++ [run ++ [e]] := by
  unfold addEvent
  rw [List.dropLast_concat, List.getLast?_concat]
  rfl

theorem foldl_addEvent_append (past : List (List (GameEvent R))) (run news : List (GameEvent R)) :
    news.foldl addEvent (past ++ [run]) = past ++ [run ++ news] := by
  induction news generalizing run with
  | nil => rw [List.append_nil, List.foldl_nil]
  | cons e news ih =>
    rw [List.foldl_cons, addEvent_append, ih, List.append_assoc, List.singleton_append]

theorem flatten_addEvent (runs : List (List (GameEvent R))) (e : GameEvent R) :
    (addEvent runs e).flatten = runs.flatten ++ [e] := by
  rcases runs.eq_nil_or_concat with rfl | ⟨past, run, rfl⟩
  . rfl
  . rw [List.concat_eq_append, addEvent_append, List.flatten_concat, List.flatten_concat,
      List.append_assoc]

theorem flatten_record (runs : List (List (GameEvent R))) (entry : Entry R) :
    (record runs entry).flatten = runs.flatten ++ entry.event?.toList := by
  cases entry with
  | notice n =>
    unfold record
    dsimp only
    split
    . rw [List.flatten_concat]
      rfl
    . exact (List.append_nil _).symm
  | event e => exact flatten_addEvent runs e
  | report k r => exact (List.append_nil _).symm

theorem flatten_foldl_record (entries : List (Entry R)) (runs : List (List (GameEvent R))) :
    (entries.foldl record runs).flatten = runs.flatten ++ entries.filterMap event? := by
  induction entries generalizing runs with
  | nil => exact (List.append_nil _).symm
  | cons entry entries ih =>
    rw [List.foldl_cons, ih, flatten_record, List.append_assoc]
    cases h : entry.event? with
    | none => rw [List.filterMap_cons_none h, Option.toList_none, List.nil_append]
    | some e => rw [List.filterMap_cons_some h, Option.toList_some, List.singleton_append]

/-! ### A report to all listeners -/

theorem event?_reports (listeners : List Nat) (r : RunReport R) :
    (listeners.map fun k => report k r).filterMap event? = [] := by
  rw [List.filterMap_map, List.filterMap_eq_nil_iff]
  intro k _
  rfl

theorem record_reports (listeners : List Nat) (r : RunReport R)
    (runs : List (List (GameEvent R))) :
    (listeners.map fun k => report k r).foldl record runs = runs := by
  induction listeners with
  | nil => rfl
  | cons k listeners ih => exact ih

theorem told?_reports (count k : Nat) (r : RunReport R) :
    ((List.range count).map fun k => report k r).filterMap (told? k) =
      if k < count then [r] else [] := by
  induction count with
  | zero => rfl
  | succ count ih =>
    rw [List.range_succ, List.map_append, List.filterMap_append, ih, List.map_singleton]
    unfold told?
    rcases Nat.lt_trichotomy k count with h | rfl | h
    . simp [h, Nat.lt_succ_of_lt h, Nat.ne_of_gt h]
    . simp
    . simp [Nat.not_lt_of_gt h, Nat.ne_of_lt h, show ¬ k < count + 1 by omega]

end Entry

namespace Controller

def log (c : Controller R) : List (GameEvent R) :=
  c.journal.toList.filterMap Entry.event?

def spawned (c : Controller R) : List UInt32 :=
  c.log.filterMap GameEvent.spawned?

/-- The events of each run that was ever begun, in order. -/
def runs (c : Controller R) : List (List (GameEvent R)) :=
  c.journal.toList.foldl Entry.record []

def told (c : Controller R) (listener : Nat) : List (RunReport R) :=
  c.journal.toList.filterMap (Entry.told? listener)

theorem flatten_runs (c : Controller R) : c.runs.flatten = c.log :=
  Entry.flatten_foldl_record c.journal.toList []

/-! ### Entries -/

theorem log_note (c : Controller R) (notice : Notice R) : (c.note notice).log = c.log := by
  unfold log note
  rw [Array.toList_push, List.filterMap_append]
  exact List.append_nil _

theorem log_emit (c : Controller R) (e : GameEvent R) : (c.emit e).log = c.log ++ [e] := by
  unfold log emit
  rw [Array.toList_push, List.filterMap_append]
  rfl

theorem log_report (c : Controller R) (r : RunReport R) : (c.report r).log = c.log := by
  unfold log report
  rw [Array.toList_append, List.filterMap_append, Entry.event?_reports]
  exact List.append_nil _

theorem runs_note_of_startsRun (c : Controller R) {notice : Notice R}
    (h : notice.startsRun = true) : (c.note notice).runs = c.runs ++ [[]] := by
  unfold runs note
  rw [Array.toList_push, List.foldl_append]
  exact if_pos h

theorem runs_note (c : Controller R) {notice : Notice R} (h : notice.startsRun = false) :
    (c.note notice).runs = c.runs := by
  unfold runs note
  rw [Array.toList_push, List.foldl_append]
  exact if_neg (ne_true_of_eq_false h)

theorem runs_emit (c : Controller R) (e : GameEvent R) :
    (c.emit e).runs = Entry.addEvent c.runs e := by
  unfold runs emit
  rw [Array.toList_push, List.foldl_append]
  rfl

theorem runs_report (c : Controller R) (r : RunReport R) : (c.report r).runs = c.runs := by
  unfold runs report
  rw [Array.toList_append, List.foldl_append, Entry.record_reports]

theorem told_note (c : Controller R) (notice : Notice R) (k : Nat) :
    (c.note notice).told k = c.told k := by
  unfold told note
  rw [Array.toList_push, List.filterMap_append]
  exact List.append_nil _

theorem told_emit (c : Controller R) (e : GameEvent R) (k : Nat) :
    (c.emit e).told k = c.told k := by
  unfold told emit
  rw [Array.toList_push, List.filterMap_append]
  exact List.append_nil _

theorem told_report (c : Controller R) (r : RunReport R) (k : Nat) :
    (c.report r).told k = c.told k ++ if k < c.listeners then [r] else [] := by
  unfold told report
  rw [Array.toList_append, List.filterMap_append, Entry.told?_reports]

end Controller

end ReefRover
