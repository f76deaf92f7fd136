import ReefRover.Proofs.Headless.Loop
import ReefRover.Proofs.Scalar.Constants

/-!
This module contains the proof that a headless run ends with its own report, within the time limit.
The time is summed up in single precision, so it is bounded by sums of numbers that single precision
has.
-/

namespace ReefRover

namespace Headless

open Floating (Within gives_add le_iff_toReal)
open Single (bound within_scalar)

/-! ### The time limit -/

theorem bound_places {m : Nat} (hm : m < 2 ^ 24) :
    Floating.Bound .binary32 (m * 2 ^ (-17 : Int) : ℝ) :=
  bound m (-17) (abs_of_nonneg (by positivity)) hm (by decide)

/-- While the time is below 128 seconds, multiples of `2 ^ -17` are numbers of single precision. -/
theorem within_elapsedAfter {n : Nat} (hn : n ≤ 15000) : Within (elapsedAfter n)
    ((1092 * n : Nat) * 2 ^ (-17 : Int)) ((1093 * n : Nat) * 2 ^ (-17 : Int)) := by
  induction n with
  | zero =>
    have hzero : Within (Scalar.ofNat 0 : Float32) (0 : Nat) (0 : Nat) := within_scalar (by decide)
    exact hzero.mono (by norm_num) (by norm_num)
  | succ n ih =>
    have hn := ih (by omega)
    have hstep := Tuning.within_timestep
    apply (gives_add hn hstep).within
    . exact bound_places (by omega)
    . exact bound_places (by omega)
    . rw [Nat.mul_succ, Nat.cast_add, add_mul]
      exact add_le_add hn.ge hstep.ge
    . rw [Nat.mul_succ, Nat.cast_add, add_mul]
      exact add_le_add hn.le hstep.le

theorem runTimeLimit_le : Tuning.runTimeLimit ≤ elapsedAfter 14404 := by
  have hlimit : Within (Tuning.runTimeLimit : Float32) (120 : Nat) (120 : Nat) :=
    within_scalar (n := 120) (by decide)
  have htime := within_elapsedAfter (n := 14404) (by decide)
  apply (le_iff_toReal hlimit htime).mpr
  rw [hlimit.toReal_eq]
  refine le_trans ?_ htime.ge
  norm_num

theorem exists_reaching_limit {N : Nat} (hlimit : Tuning.runTimeLimit ≤ elapsedAfter N) :
    ∃ n ≤ N, n < tickLimit ∧ Tuning.runTimeLimit ≤ elapsedAfter n := by
  rcases Nat.lt_or_ge N tickLimit with hlt | hge
  . exact ⟨N, Nat.le_refl N, hlt, hlimit⟩
  . have hticks : 14404 < tickLimit := by decide
    exact ⟨14404, (hticks.trans_le hge).le, hticks, runTimeLimit_le⟩

end Headless

/-! ### Whole runs -/

/-- Whether there is a text to be run, be it a program or not. -/
def ProgramSource.isReadable : ProgramSource → Bool
  | patrol => true
  | file _ content => content.isOk

namespace Headless

def started (seed : Option UInt64) (session : UInt64) : ProgramSource → Controller Float32
  | .patrol => ((Controller.new { Settings.defaults with seed } session).start patrol).2
  | .file _ (.ok text) =>
    ((Controller.new { Settings.defaults with seed } session).startText text).2
  | .file _ (.error _) => Controller.new { Settings.defaults with seed } session

theorem oneRun_started (seed : Option UInt64) (session : UInt64) {source : ProgramSource}
    (hsource : source.isReadable = true) : (started seed session source).OneRun := by
  cases source with
  | patrol => exact Controller.oneRun_start _ session patrol
  | file name content =>
    cases content with
    | ok text => exact Controller.oneRun_startDecoded _ session (Program.ofText text)
    | error e => cases hsource

namespace State

theorem follows_new (seed : Option UInt64) (session : UInt64) (log : Array LogLine) :
    let c := Controller.new { Settings.defaults with seed } session
    (State.follow { controller := c, log } c).Follows c 0 ∧
      (State.follow { controller := c, log } c).controller.events = #[] := by
  intro c
  refine ⟨⟨⟨#[], ?_⟩, rfl, rfl⟩, rfl⟩
  have hempty : c.recalling #[] #[] = c := by
    unfold Controller.recalling
    rw [Array.empty_append, Array.empty_append]
  exact Controller.recalling_without_journal hempty

theorem follows_startProgram (seed : Option UInt64) (session : UInt64) {source : ProgramSource}
    (hsource : source.isReadable = true) {s : State}
    (h : s.Follows (Controller.new { Settings.defaults with seed } session) 0)
    (hevents : s.controller.events = #[]) :
    ∃ s', s.startProgram source = .ok s' ∧ s'.Follows (started seed session source) 0 := by
  cases source with
  | patrol =>
    have hwritten : (s.write .info "No program given, running the built-in patrol").Follows
        (Controller.new { Settings.defaults with seed } session) 0 := { h with }
    exact ⟨_, rfl, hwritten.act (fun c => (c.start patrol).2) hevents fun c events journal =>
      c.start_recalling events journal patrol⟩
  | file name content =>
    cases content with
    | error e => cases hsource
    | ok text =>
      have hwritten : (s.write .info ("Loaded " ++ name)).Follows
          (Controller.new { Settings.defaults with seed } session) 0 := { h with }
      have hstarted := hwritten.act (fun c => (c.startText text).2) hevents
        fun c events journal => c.startDecoded_recalling events journal _
      unfold startProgram
      dsimp only
      split
      . exact ⟨_, rfl, hstarted⟩
      . exact ⟨_, rfl, { hstarted with }⟩

theorem report_finish (s : State) : s.finish.report = s.report := by
  unfold finish
  split
  . next hreport => exact hreport.symm
  . next hreport => exact hreport.symm

end State

/--
Once the sum of the timesteps reaches the time limit after some number of them, no headless run
takes more timesteps than that, and it ends with the one report of the run that was started. A run
that is still going on by then was stopped.
-/
theorem run_reports_once (seed : Option String) {value : Option UInt64} (session : UInt64)
    (source : ProgramSource) {N : Nat} (hseed : seed.mapM seedOfText = .ok value)
    (hsource : source.isReadable = true) (hlimit : Tuning.runTimeLimit ≤ elapsedAfter N) :
    let started := started value session source
    let result := run seed session source
    ∃ k ≤ N, ∃ (s : State) (report : RunReport Float32),
      let ended := (started.ticked k).stop
      State.LastTick started k ∧ s.Follows ended k ∧ result = s.finish ∧
        result.report = some report ∧ ended.log.filterMap GameEvent.report? = [report] ∧
        ended.phase = .finished report.outcome ∧
        ((started.ticked N).isRunning = true → report.outcome = .stopped) ∧
        (result.exitCode = 2 ↔
          report.outcome = .collision ∨ ∃ e, report.outcome = .failed e) ∧
        (result.exitCode = 0 ↔
          ¬ (report.outcome = .collision ∨ ∃ e, report.outcome = .failed e)) := by
  intro started result
  have hone : started.OneRun := oneRun_started value session hsource
  obtain ⟨hnew, hevents⟩ := State.follows_new value session
    #[{ level := .info, source := .program, text := "Ocean Bot (native) starting..." }]
  obtain ⟨s, hstart, hbegun⟩ := State.follows_startProgram value session hsource hnew hevents
  obtain ⟨n, hnN, hticks, hreached⟩ := exists_reaching_limit hlimit
  obtain ⟨k, hk, hlast, hloop, htaken⟩ := State.follows_loop hone hreached tickLimit
    (Nat.zero_le n) (by omega) (fun j hj => absurd hj (Nat.not_lt_zero j)) hbegun
  have hresult : result = (s.loop tickLimit).finish := by
    change run seed session source = _
    unfold run
    rw [hseed]
    dsimp only
    rw [hstart]
  have hended : (started.ticked k).stop.OneRun :=
    (hone.ticked k).beats (Controller.beats_stop _)
  have hover : (started.ticked k).stop.isRunning = false := by
    rw [← hended.consistent.run_isSome, Controller.stop, Controller.run_finish]
    rfl
  obtain ⟨report, hreports, hphase⟩ := hended.exists_report hover
  have hreport : (s.loop tickLimit).report = some report := by
    have htold := hloop.reports_eq
    rw [htaken] at htold
    rw [hended.log_eq] at hreports
    exact Option.toList_eq_singleton_iff.mp ((List.append_nil _).symm.trans (htold.trans hreports))
  have hfinal : result.report = some report := by
    rw [hresult, State.report_finish, hreport]
  have hcode : result.exitCode = if report.outcome.isLoss then 2 else 0 := by
    unfold HeadlessRun.exitCode
    rw [hfinal]
  refine ⟨k, hk.trans hnN, s.loop tickLimit, report, hlast, hloop, hresult, hfinal, hreports,
    hphase, ?_, ?_, ?_⟩
  . intro hrunning
    have hrunning := hone.isRunning_ticked (hk.trans hnN) hrunning
    have hrun := (hone.ticked k).consistent.run_isSome.trans hrunning
    rw [Controller.stop, Controller.finish_eq hrun] at hphase
    exact (RunPhase.finished.inj hphase).symm
  . rw [hcode, ← RunOutcome.isLoss_iff]
    cases report.outcome.isLoss <;> decide
  . rw [hcode, ← RunOutcome.isLoss_iff]
    cases report.outcome.isLoss <;> decide

theorem run_reports_once_of_drive :
    let source := ProgramSource.file "drive.json"
      (.ok "[\x7b\"op\":\"drive\",\"direction\":\"forward\"\x7d]")
    (some "7").mapM seedOfText = .ok (some 7) ∧ source.isReadable = true ∧
      Tuning.runTimeLimit ≤ elapsedAfter 14404 ∧
      ∃ k ≤ 14404, ∃ report, (run (some "7") 0 source).report = some report ∧
        ((started (some 7) 0 source).ticked k).stop.phase = .finished report.outcome := by
  intro source
  have hseed : (some "7").mapM seedOfText = .ok (some 7) := by decide +kernel
  obtain ⟨k, hk, s, report, -, -, -, hreport, -, hphase, -⟩ :=
    run_reports_once (some "7") 0 source hseed rfl runTimeLimit_le
  exact ⟨hseed, rfl, runTimeLimit_le, k, hk, report, hreport, hphase⟩

end Headless

end ReefRover
