import ReefRover.Headless
import ReefRover.Proofs.Run.Frames
import ReefRover.Proofs.Run.Lifecycle

/-!
This module contains how the loop of a headless run goes. It follows a controller whose records
nobody takes, timestep by timestep, and what it took for the report is the only one there is.
-/

namespace ReefRover

namespace Controller

/-- The run that began last is the only one so far, and its events are still there to be taken. -/
structure OneRun {R : Type} [Scalar R] (c : Controller R) : Prop where
  consistent : c.Consistent
  log_eq : c.log = c.events.toList
  balance : (c.log.filterMap GameEvent.report?).length + c.run.isSome.toNat = 1
  reports_eq : ∀ report ∈ c.log.filterMap GameEvent.report?, c.phase = .finished report.outcome

namespace OneRun

variable {R : Type} [Scalar R] {c c' : Controller R}

theorem run_eq_none_of_report (h : c.OneRun) {report : RunReport R}
    (hreport : report ∈ c.log.filterMap GameEvent.report?) : c.run = none := by
  have hbalance := h.balance
  have hlength := List.length_pos_of_mem hreport
  cases hrun : c.run with
  | none => rfl
  | some run =>
    rw [hrun, Option.isSome_some, Bool.toNat_true] at hbalance
    omega

theorem beats (h : c.OneRun) (hbeats : c.Beats c') : c'.OneRun := by
  obtain ⟨news, hnews⟩ := hbeats.brings
  have hevents := hnews.events_eq
  rw [List.nil_append] at hevents
  refine ⟨h.consistent.moves hbeats.moves, ?_, ?_, ?_⟩
  . rw [hnews.log_eq, hevents, h.log_eq]
  . have hbalance := hnews.balance
    have hbalance' := h.balance
    rw [hnews.log_eq, List.filterMap_append, List.length_append]
    omega
  . intro report hreport
    rw [hnews.log_eq, List.filterMap_append, List.mem_append] at hreport
    rcases hreport with hreport | hreport
    . obtain ⟨hphase, -⟩ := hnews.still (h.run_eq_none_of_report hreport)
      rw [hphase]
      exact h.reports_eq report hreport
    . exact (hnews.reports_eq report hreport).1

theorem exists_report (h : c.OneRun) (hrunning : c.isRunning = false) :
    ∃ report, c.log.filterMap GameEvent.report? = [report] ∧
      c.phase = .finished report.outcome := by
  have hbalance := h.balance
  rw [h.consistent.run_isSome, hrunning] at hbalance
  obtain ⟨report, hreport⟩ := List.length_eq_one_iff.mp hbalance
  exact ⟨report, hreport, h.reports_eq report (hreport ▸ List.mem_singleton_self report)⟩

theorem ticked (h : c.OneRun) (count : Nat) : (c.ticked count).OneRun := by
  induction count generalizing c with
  | zero => exact h
  | succ count ih => exact ih (h.beats (c.beats_tick _))

end OneRun

theorem oneRun_start (settings : Settings Float32) (session : UInt64)
    (program : Program Float32) : ((new settings session).start program).2.OneRun where
  consistent := (consistent_new settings session).moves (moves_start _ program)
  log_eq := rfl
  balance := rfl
  reports_eq := nofun

theorem oneRun_startDecoded (settings : Settings Float32) (session : UInt64)
    (decoded : Except Json.DecodeError (Program Float32)) :
    ((new settings session).startDecoded decoded).2.OneRun := by
  cases decoded with
  | ok program => exact oneRun_start settings session program
  | error e =>
    -- a program that does not decode begins a run that ends at once
    exact (oneRun_start settings session []).beats (beats_finish _ nofun)

theorem beats_ticked (c : Controller Float32) (count : Nat) : c.Beats (c.ticked count) := by
  induction count generalizing c with
  | zero => exact .refl c
  | succ count ih => exact (c.beats_tick _).trans (ih _)

theorem OneRun.isRunning_ticked {c : Controller Float32} (h : c.OneRun) {m n : Nat} (hmn : m ≤ n)
    (hrunning : (c.ticked n).isRunning = true) : (c.ticked m).isRunning = true := by
  have hm := (h.beats (c.beats_ticked m)).consistent
  have hn := (h.beats (c.beats_ticked n)).consistent
  obtain ⟨later, rfl⟩ := Nat.exists_eq_add_of_le hmn
  obtain ⟨news, hnews⟩ := ((c.ticked m).beats_ticked later).brings
  rw [← ticked_add] at hnews
  apply hm.isRunning
  rw [← hn.run_isSome, ← Option.ne_none_iff_isSome] at hrunning
  rw [← Option.ne_none_iff_isSome]
  exact fun hrun => hrunning (hnews.run_eq_none hrun)

theorem OneRun.stop_eq {c : Controller Float32} (h : c.OneRun) (hrunning : c.isRunning = false) :
    c.stop = c :=
  finish_of_run_eq_none (h.consistent.run_eq_none hrunning) .stopped

/-! ### Records that were taken -/

variable {c d : Controller Float32} {events : Array (GameEvent Float32)}
  {journal : Array (Entry Float32)}

theorem recalling_without_journal (h : d.recalling events journal = c) :
    Controller.recalling { d with journal := #[] } events c.journal = c := by
  rw [← h]
  unfold recalling
  dsimp only
  rw [Array.append_empty]

theorem recalling_without_events (h : d.recalling events journal = c) :
    Controller.recalling { d with events := #[] } c.events journal = c := by
  rw [← h]
  unfold recalling
  dsimp only
  rw [Array.append_empty]

end Controller

namespace Headless

def elapsedAfter : Nat → Float32
  | 0 => 0
  | n + 1 => elapsedAfter n + Tuning.timestep

namespace State

variable {s : State} {c started : Controller Float32} {n : Nat}

def reports (events : Array (GameEvent Float32)) : List (RunReport Float32) :=
  events.toList.filterMap GameEvent.report?

/--
The host has seen so many timesteps of a controller. Of its events it took some and has not yet
taken the others.
-/
structure Follows (s : State) (c : Controller Float32) (n : Nat) : Prop where
  controller_eq : ∃ taken, s.controller.recalling taken c.journal = c
  elapsed_eq : s.elapsed = elapsedAfter n
  reports_eq : s.report.toList ++ reports s.controller.events = reports c.events

theorem foldl_event (events : List (GameEvent Float32)) (s : State) :
    (events.foldl event s).controller = s.controller ∧
      (events.foldl event s).elapsed = s.elapsed ∧
      (events.foldl event s).report =
        (events.filterMap GameEvent.report?).foldl (fun _ report => some report) s.report := by
  induction events generalizing s with
  | nil => exact ⟨rfl, rfl, rfl⟩
  | cons e events ih =>
    obtain ⟨hcontroller, helapsed, hreport⟩ := ih (s.event e)
    cases e with
    | trashSpawned | trashCollected | coralHit | runFinished =>
      exact ⟨hcontroller, helapsed, hreport⟩

theorem toList_foldl_report {before : Option (RunReport Float32)}
    {later : List (RunReport Float32)} (h : (before.toList ++ later).length ≤ 1) :
    (later.foldl (fun _ report => some report) before).toList = before.toList ++ later := by
  cases later with
  | nil => exact (List.append_nil _).symm
  | cons report later =>
    cases before with
    | none =>
      cases later with
      | nil => rfl
      | cons => simp at h
    | some => simp at h

theorem length_reports_le (h : c.OneRun) : (reports c.events).length ≤ 1 := by
  have hbalance := h.balance
  rw [h.log_eq] at hbalance
  unfold reports
  omega

namespace Follows

theorem drain (h : s.Follows c n) (hone : c.OneRun) :
    s.drain.Follows c n ∧ s.drain.controller.events = #[] := by
  obtain ⟨taken, htaken⟩ := h.controller_eq
  let emptied : Controller Float32 := { s.controller with events := #[], journal := #[] }
  have hdrain : s.drain =
      s.controller.events.toList.foldl event (s.follow { s.controller with events := #[] }) :=
    (Array.foldl_toList _).symm
  obtain ⟨hcontroller, helapsed, hreport⟩ := foldl_event s.controller.events.toList
    (s.follow { s.controller with events := #[] })
  rw [← hdrain] at hcontroller helapsed hreport
  have hcontroller : s.drain.controller = emptied := hcontroller
  have hreports := h.reports_eq
  refine ⟨⟨⟨c.events, ?_⟩, helapsed.trans h.elapsed_eq, ?_⟩, ?_⟩
  . rw [hcontroller]
    exact Controller.recalling_without_journal (Controller.recalling_without_events htaken)
  . have hlength : (s.report.toList ++ reports s.controller.events).length ≤ 1 := by
      rw [hreports]
      exact length_reports_le hone
    rw [hcontroller, hreport]
    exact (List.append_nil _).trans ((toList_foldl_report hlength).trans hreports)
  . rw [hcontroller]

theorem act (h : s.Follows c n) (op : Controller Float32 → Controller Float32)
    (hevents : s.controller.events = #[])
    (hop : ∀ (c : Controller Float32) events journal,
      op (c.recalling events journal) = (op c).recalling events journal) :
    (s.follow (op s.controller)).Follows (op c) n := by
  obtain ⟨taken, htaken⟩ := h.controller_eq
  have hact : (op s.controller).recalling taken c.journal = op c := by rw [← hop, htaken]
  have hbefore : taken = c.events := by
    rw [← htaken]
    unfold Controller.recalling
    dsimp only
    rw [hevents, Array.append_empty]
  have hreports := h.reports_eq
  rw [hevents] at hreports
  refine ⟨⟨taken, Controller.recalling_without_journal hact⟩, h.elapsed_eq, ?_⟩
  have hafter : (op c).events = c.events ++ (op s.controller).events := by
    rw [← hact, hbefore]
    rfl
  have hreport : s.report.toList = reports c.events := (List.append_nil _).symm.trans hreports
  change s.report.toList ++ reports (op s.controller).events = _
  rw [hafter, hreport]
  unfold reports
  rw [Array.toList_append, List.filterMap_append]

theorem isRunning_eq (h : s.Follows c n) : s.controller.isRunning = c.isRunning := by
  obtain ⟨taken, htaken⟩ := h.controller_eq
  rw [← htaken]
  rfl

theorem later (h : s.Follows c n) (hevents : s.controller.events = #[]) :
    let s' := s.follow (s.controller.tick Tuning.timestep)
    { s' with elapsed := s'.elapsed + Tuning.timestep }.Follows (c.tick Tuning.timestep)
      (n + 1) := by
  have htick := h.act (·.tick Tuning.timestep) hevents fun c events journal =>
    c.tick_recalling events journal _
  refine ⟨htick.controller_eq, ?_, htick.reports_eq⟩
  exact congrArg (· + Tuning.timestep) htick.elapsed_eq

end Follows

/-- Where the loop ends: the run is over, or the time is up. -/
structure LastTick (started : Controller Float32) (k : Nat) : Prop where
  goesOn : ∀ j < k, (started.ticked j).isRunning = true ∧ ¬ Tuning.runTimeLimit ≤ elapsedAfter j
  ends : (started.ticked k).isRunning = true → Tuning.runTimeLimit ≤ elapsedAfter k

theorem follows_loop (hone : started.OneRun) {N : Nat}
    (hlimit : Tuning.runTimeLimit ≤ elapsedAfter N) (ticks : Nat) (hn : n ≤ N)
    (hticks : N < n + ticks) (hbefore : ∀ j < n, (started.ticked j).isRunning = true ∧
      ¬ Tuning.runTimeLimit ≤ elapsedAfter j)
    (h : s.Follows (started.ticked n) n) :
    ∃ k ≤ N, LastTick started k ∧ (s.loop ticks).Follows (started.ticked k).stop k ∧
      (s.loop ticks).controller.events = #[] := by
  induction ticks generalizing s n with
  | zero => omega
  | succ ticks ih =>
    have hone' := hone.ticked n
    obtain ⟨hdrain, hevents⟩ := h.drain hone'
    unfold loop
    dsimp only
    rw [hdrain.isRunning_eq, hdrain.elapsed_eq]
    cases hrunning : (started.ticked n).isRunning with
    | false =>
      refine ⟨n, hn, ⟨hbefore, ?_⟩, ?_⟩
      . rw [hrunning]
        nofun
      . rw [hone'.stop_eq hrunning]
        exact ⟨hdrain, hevents⟩
    | true =>
      rw [Bool.not_true, if_neg Bool.false_ne_true]
      split
      . next hover =>
        refine ⟨n, hn, ⟨hbefore, fun _ => hover⟩, ?_⟩
        have hstop : (s.drain.write .warn "Time limit of 120s reached, stopping").Follows
            (started.ticked n) n := { hdrain with }
        have hstopped := hstop.act Controller.stop hevents fun c events journal =>
          c.finish_recalling events journal .stopped
        exact hstopped.drain (hone'.beats (Controller.beats_stop _))
      . next hnot =>
        have hne : n ≠ N := by
          rintro rfl
          exact hnot hlimit
        apply ih (n := n + 1) (by omega) (by omega)
        . intro j hj
          rcases Nat.lt_succ_iff_lt_or_eq.mp hj with hlt | rfl
          . exact hbefore j hlt
          . exact ⟨hrunning, hnot⟩
        . rw [Controller.ticked_add]
          exact hdrain.later hevents

end State

end Headless

end ReefRover
