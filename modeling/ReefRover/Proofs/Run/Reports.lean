import ReefRover.Proofs.Run.Lifecycle
import ReefRover.Scalar.Single

/-!
This module contains the proof that every listener hears of the end of each run exactly once, in
order, and is told how it ended.
-/

namespace ReefRover

variable {R : Type}

namespace Controller

variable {c c' c'' : Controller R} {begun : Nat} {taken news : List (GameEvent R)} {k : Nat}

theorem Unfolds.told_eq_of_none (h : c.Unfolds 0 taken news c') (hrun : c.run = none)
    (hk : k < c.listeners) : c'.told k = c.told k := by
  have hbalance := h.balance
  rw [hrun, Option.isSome_none, Bool.toNat_false] at hbalance
  have hlength : (news.filterMap GameEvent.report?).length = 0 := by omega
  rw [h.told_eq k hk, List.length_eq_zero_iff.mp hlength, List.append_nil]

/-- All listeners are told these reports, at most one, and it is how things stand then. -/
structure Tells (c c' : Controller R) (reports : List (RunReport R)) : Prop where
  told_eq : ∀ k < c.listeners, c'.told k = c.told k ++ reports
  length_le : reports.length ≤ 1
  reports_eq : ∀ report ∈ reports,
    c'.phase = .finished report.outcome ∧ c'.game.trashCollected = report.trashCollected

theorem Brings.tells (h : c.Brings news c') : c.Tells c' (news.filterMap GameEvent.report?) where
  told_eq := h.told_eq
  length_le := by
    have hbalance := h.balance
    have hle := c.run.isSome.toNat_le
    omega
  reports_eq := h.reports_eq

theorem Beats.tells (h : c.Beats c') : ∃ reports, c.Tells c' reports := by
  obtain ⟨news, hnews⟩ := h.brings
  exact ⟨_, hnews.tells⟩

theorem tells_nil (h : ∀ k < c.listeners, c'.told k = c.told k) : c.Tells c' [] where
  told_eq k hk := by rw [h k hk, List.append_nil]
  length_le := Nat.zero_le 1
  reports_eq := nofun

variable [Scalar R]

/-! ### Commands -/

theorem told_start (c : Controller R) (program : Program R) (k : Nat) :
    (c.start program).2.told k = c.told k := by
  unfold start
  split
  . exact c.told_note _ k
  . exact (c.launched (Script.ofProgram program)).told_note _ k

theorem listeners_start (c : Controller R) (program : Program R) :
    (c.start program).2.listeners = c.listeners := by
  unfold start
  split
  . rfl
  . rfl

theorem told_setLayout (h : c.Consistent) (layout : Layout) (hk : k < c.listeners) :
    (c.setLayout layout).2.told k = c.told k := by
  cases hrunning : c.isRunning with
  | true =>
    unfold setLayout
    rw [if_pos hrunning]
    exact c.told_note _ k
  | false =>
    obtain ⟨news, hnews⟩ := (moves_setLayout h layout).unfolds h
    exact hnews.told_eq_of_none (h.run_eq_none hrunning) hk

theorem tells_startDecoded (c : Controller R) (decoded : Except Json.DecodeError (Program R)) :
    ∃ reports, c.Tells (c.startDecoded decoded).2 reports := by
  rcases c.startDecoded_cases decoded with ⟨program, heq⟩ | ⟨outcome, houtcome, heq⟩
  . rw [heq]
    exact ⟨[], tells_nil fun k _ => c.told_start program k⟩
  . obtain ⟨reports, hreports⟩ := (beats_finish (c.start []).2 houtcome).tells
    rw [heq]
    refine ⟨reports, ?_, hreports.length_le, hreports.reports_eq⟩
    intro k hk
    rw [← c.told_start [] k]
    exact hreports.told_eq k (c.listeners_start [] ▸ hk)

theorem tells_teardown (h : c.Consistent) (command : Command R) :
    ∃ reports, c.Tells (c.teardown command) reports := by
  cases command with
  | start program => exact ⟨[], tells_nil fun k _ => c.told_start program k⟩
  | startDecoded decoded => exact c.tells_startDecoded decoded
  | stop | reset | clear => exact c.beats_stop.tells
  | setLayout layout => exact ⟨[], tells_nil fun k hk => told_setLayout h layout hk⟩
  | listen | drainEvents => exact ⟨[], tells_nil fun k _ => rfl⟩
  | tick dt => exact (c.beats_tick dt).tells
  | advance frame => exact (c.beats_advance frame).tells

theorem told_obey (c : Controller R) (command : Command R) (k : Nat) :
    (c.obey command).told k = (c.teardown command).told k := by
  cases command with
  | start | startDecoded | stop | reset | clear | setLayout | listen | drainEvents | tick
  | advance => rfl

/--
A listener is told the reports of all runs that end from then on, each with how the run ended and
with its score. The number of reports is that of the runs begun, and nothing is reported where no
run goes on.
-/
theorem told_exactly_once (settings : Settings R) (session : UInt64)
    (earlier later : List (Command R)) :
    let before := (new settings session).after earlier
    let k := before.listen.1
    let joined := before.listen.2
    let c := joined.after later
    (∃ news, joined.taken later ++ c.events.toList = joined.events.toList ++ news ∧
        c.told k = news.filterMap GameEvent.report?) ∧
      (c.told k).length + c.isRunning.toNat = before.isRunning.toNat + joined.begun later ∧
      (∀ command : Command R, ∃ reports : List (RunReport R),
        (c.obey command).told k = c.told k ++ reports ∧ reports.length ≤ 1 ∧
          ∀ report ∈ reports, (c.teardown command).phase = .finished report.outcome ∧
            (c.teardown command).game.trashCollected = report.trashCollected) ∧
      ∀ more, c.isRunning = false → c.begun more = 0 → (c.after more).told k = c.told k := by
  intro before k joined c
  have hnew := consistent_new settings session
  have hbefore : before.Consistent := hnew.after earlier
  have hjoined : joined.Consistent := hbefore.moves (moves_obey hbefore .listen)
  have hc : c.Consistent := hjoined.after later
  obtain ⟨first, hfirst⟩ := (moves_after hnew earlier).unfolds hnew
  obtain ⟨news, hnews⟩ := (moves_after hjoined later).unfolds hjoined
  have hk : k < joined.listeners := Nat.lt_succ_self _
  have hkc : k < c.listeners := Nat.lt_of_lt_of_le hk hnews.listeners_le
  have htold : c.told k = news.filterMap GameEvent.report? := by
    have hnothing : joined.told k = [] := hfirst.untold (fun _ _ => rfl) k (Nat.le_refl _)
    rw [hnews.told_eq k hk, hnothing, List.nil_append]
  refine ⟨⟨news, hnews.events_eq, htold⟩, ?_, ?_, ?_⟩
  . have hbalance := hnews.balance
    rw [← htold, hc.run_isSome, hjoined.run_isSome] at hbalance
    exact hbalance
  . intro command
    obtain ⟨reports, hreports⟩ := tells_teardown hc command
    have htold' := (c.told_obey command k).trans (hreports.told_eq k hkc)
    exact ⟨reports, htold', hreports.length_le, hreports.reports_eq⟩
  . intro more hrunning hbegun
    obtain ⟨news', hnews'⟩ := (moves_after hc more).unfolds hc
    rw [hbegun] at hnews'
    exact hnews'.told_eq_of_none (hc.run_eq_none hrunning) hkc

theorem told_once_of_stop :
    let joined := (new (Settings.defaults : Settings Float32) 7).listen.2
    let c := joined.after [.start [], .stop]
    (c.told 0).length = 1 ∧
      (c.after [.stop, .reset, .tick 1, .setLayout .enlarged]).told 0 = c.told 0 := by
  intro joined c
  obtain ⟨-, hlength, -, hnothing⟩ :=
    told_exactly_once (Settings.defaults : Settings Float32) 7 [] [.start [], .stop]
  exact ⟨hlength, hnothing [.stop, .reset, .tick 1, .setLayout .enlarged] rfl rfl⟩

end Controller

end ReefRover
