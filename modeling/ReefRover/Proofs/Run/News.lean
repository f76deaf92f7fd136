import ReefRover.Proofs.Run.Beat

/-!
This module contains what the beats of a controller bring about as far as its events, its runs and
its listeners are concerned.
-/

namespace ReefRover

variable {R : Type}

namespace Controller

/--
From one state to another, while so many runs began and these events were taken out, these events
happened. Every listener received the reports among them, one for each run that ended.
-/
structure Unfolds (c : Controller R) (begun : Nat) (taken news : List (GameEvent R))
    (c' : Controller R) : Prop where
  log_eq : c'.log = c.log ++ news
  events_eq : taken ++ c'.events.toList = c.events.toList ++ news
  listeners_le : c.listeners ≤ c'.listeners
  told_eq : ∀ k < c.listeners, c'.told k = c.told k ++ news.filterMap GameEvent.report?
  untold : (∀ k, c.listeners ≤ k → c.told k = []) → ∀ k, c'.listeners ≤ k → c'.told k = []
  balance : (news.filterMap GameEvent.report?).length + c'.run.isSome.toNat =
    c.run.isSome.toNat + begun

/--
From one state to another these events happened, all of them in one run. A report among them is the
last thing that the run brings about.
-/
structure Brings (c : Controller R) (news : List (GameEvent R)) (c' : Controller R) : Prop
    extends Unfolds c 0 [] news c' where
  runs_eq : c'.runs = news.foldl Entry.addEvent c.runs
  reports_eq : ∀ report ∈ news.filterMap GameEvent.report?,
    c'.phase = .finished report.outcome ∧ c'.game.trashCollected = report.trashCollected
  still : c.run = none → c'.phase = c.phase ∧ c'.game = c.game

variable {c c' c'' : Controller R} {news news' : List (GameEvent R)}

theorem Unfolds.trans {begun begun' : Nat} {taken taken' : List (GameEvent R)}
    (h : c.Unfolds begun taken news c') (h' : c'.Unfolds begun' taken' news' c'') :
    c.Unfolds (begun + begun') (taken ++ taken') (news ++ news') c'' where
  log_eq := by rw [h'.log_eq, h.log_eq, List.append_assoc]
  events_eq := by
    rw [List.append_assoc, h'.events_eq, ← List.append_assoc, h.events_eq, List.append_assoc]
  listeners_le := Nat.le_trans h.listeners_le h'.listeners_le
  told_eq k hk := by
    rw [h'.told_eq k (Nat.lt_of_lt_of_le hk h.listeners_le), h.told_eq k hk,
      List.filterMap_append, List.append_assoc]
  untold huntold := h'.untold (h.untold huntold)
  balance := by
    rw [List.filterMap_append, List.length_append, Nat.add_assoc, h'.balance, ← Nat.add_assoc,
      h.balance, Nat.add_assoc]

namespace Brings

theorem run_eq_none (h : c.Brings news c') (hrun : c.run = none) : c'.run = none := by
  have hbalance := h.balance
  rw [hrun] at hbalance
  cases hrun' : c'.run with
  | none => rfl
  | some run =>
    rw [hrun'] at hbalance
    cases hbalance

theorem run_eq_none_of_report (h : c.Brings news c') {report : RunReport R}
    (hreport : report ∈ news.filterMap GameEvent.report?) : c'.run = none := by
  have hbalance := h.balance
  have hlength := List.length_pos_of_mem hreport
  have hle := c.run.isSome.toNat_le
  cases hrun' : c'.run with
  | none => rfl
  | some run =>
    rw [hrun', Option.isSome_some, Bool.toNat_true] at hbalance
    omega

theorem runs_append (h : c.Brings news c') {past : List (List (GameEvent R))}
    {events : List (GameEvent R)} (hruns : c.runs = past ++ [events]) :
    c'.runs = past ++ [events ++ news] := by
  rw [h.runs_eq, hruns, Entry.foldl_addEvent_append]

theorem trans (h : c.Brings news c') (h' : c'.Brings news' c'') :
    c.Brings (news ++ news') c'' where
  toUnfolds := h.toUnfolds.trans h'.toUnfolds
  runs_eq := by rw [h'.runs_eq, h.runs_eq, List.foldl_append]
  reports_eq report hreport := by
    rw [List.filterMap_append, List.mem_append] at hreport
    rcases hreport with hreport | hreport
    . -- the run was over by then, so nothing changed after its report
      obtain ⟨hphase, hgame⟩ := h'.still (h.run_eq_none_of_report hreport)
      rw [hphase, hgame]
      exact h.reports_eq report hreport
    . exact h'.reports_eq report hreport
  still hrun := by
    obtain ⟨hphase, hgame⟩ := h.still hrun
    obtain ⟨hphase', hgame'⟩ := h'.still (h.run_eq_none hrun)
    exact ⟨hphase'.trans hphase, hgame'.trans hgame⟩

end Brings

theorem unfolds_nil {begun : Nat} {taken : List (GameEvent R)} (hjournal : c'.journal = c.journal)
    (hevents : taken ++ c'.events.toList = c.events.toList)
    (hlisteners : c.listeners ≤ c'.listeners)
    (hbalance : c'.run.isSome.toNat = c.run.isSome.toNat + begun) :
    c.Unfolds begun taken [] c' where
  log_eq := by
    unfold log
    rw [hjournal, List.append_nil]
  events_eq := by rw [hevents, List.append_nil]
  listeners_le := hlisteners
  told_eq k _ := by
    unfold told
    rw [hjournal, List.filterMap_nil, List.append_nil]
  untold huntold k hk := by
    unfold told
    rw [hjournal]
    exact huntold k (Nat.le_trans hlisteners hk)
  balance := by
    rw [hbalance]
    exact Nat.zero_add _

theorem brings_nil (hjournal : c'.journal = c.journal) (hevents : c'.events = c.events)
    (hlisteners : c.listeners ≤ c'.listeners) (hrun : c'.run.isSome = c.run.isSome)
    (hstill : c.run = none → c'.phase = c.phase ∧ c'.game = c.game) : c.Brings [] c' where
  toUnfolds := unfolds_nil hjournal (congrArg Array.toList hevents) hlisteners (congrArg _ hrun)
  runs_eq := by
    unfold runs
    rw [hjournal]
    rfl
  reports_eq := nofun
  still := hstill

theorem Brings.refl (c : Controller R) : c.Brings [] c :=
  brings_nil rfl rfl (Nat.le_refl _) rfl fun _ => ⟨rfl, rfl⟩

theorem unfolds_note (c : Controller R) (notice : Notice R) :
    c.Unfolds 0 [] [] (c.note notice) where
  log_eq := by rw [log_note, List.append_nil]
  events_eq := (List.append_nil _).symm
  listeners_le := Nat.le_refl _
  told_eq k _ := by
    rw [told_note]
    exact (List.append_nil _).symm
  untold huntold k hk := by
    rw [told_note]
    exact huntold k hk
  balance := Nat.zero_add _

theorem brings_note (c : Controller R) {notice : Notice R} (hnotice : notice.startsRun = false) :
    c.Brings [] (c.note notice) where
  toUnfolds := c.unfolds_note notice
  runs_eq := c.runs_note hnotice
  reports_eq := nofun
  still _ := ⟨rfl, rfl⟩

theorem brings_emit (c : Controller R) (e : GameEvent R) (he : e.report? = none) :
    c.Brings [e] (c.emit e) := by
  have hreports : [e].filterMap GameEvent.report? = [] := List.filterMap_cons_none he
  exact
    { log_eq := c.log_emit e
      events_eq := Array.toList_push
      runs_eq := c.runs_emit e
      listeners_le := Nat.le_refl _
      told_eq := fun k _ => by rw [told_emit, hreports, List.append_nil]
      untold := fun huntold k hk => by
        rw [told_emit]
        exact huntold k hk
      balance := by
        rw [hreports]
        exact Nat.zero_add _
      reports_eq := by
        rw [hreports]
        nofun
      still := fun _ => ⟨rfl, rfl⟩ }

/-! ### The end of a run -/

def ended (c : Controller R) (outcome : RunOutcome R) : Controller R :=
  let game := { c.game with isSpawningTrash := false }
  { c with
    run := none
    rig := { c.rig with motion := none, cancelled := true }
    game := if outcome.isLoss then game.lose else game
    phase := .finished outcome }

theorem trashCollected_ended (c : Controller R) (outcome : RunOutcome R) :
    (c.ended outcome).game.trashCollected = c.game.trashCollected := by
  unfold ended
  dsimp only
  split
  . rfl
  . rfl

theorem finish_eq (hrun : c.run.isSome = true) (outcome : RunOutcome R) :
    let report : RunReport R := { outcome, trashCollected := c.game.trashCollected }
    c.finish outcome =
      (((c.ended outcome).note (.runEnded outcome)).emit (.runFinished report)).report report := by
  intro report
  have hreport : report =
      { outcome, trashCollected := (c.ended outcome).game.trashCollected } := by
    rw [trashCollected_ended]
  obtain ⟨run, hrun⟩ := Option.isSome_iff_exists.mp hrun
  rw [hreport]
  unfold finish
  rw [hrun]
  rfl

theorem finish_of_run_eq_none (hrun : c.run = none) (outcome : RunOutcome R) :
    c.finish outcome = c := by
  unfold finish
  rw [hrun]

theorem run_finish (c : Controller R) (outcome : RunOutcome R) : (c.finish outcome).run = none := by
  unfold finish
  split
  . next hrun => exact hrun
  . rfl

theorem told_finish (hrun : c.run.isSome = true) (outcome : RunOutcome R) (k : Nat) :
    (c.finish outcome).told k = c.told k ++
      if k < c.listeners then [{ outcome, trashCollected := c.game.trashCollected }] else [] := by
  rw [finish_eq hrun, told_report, told_emit, told_note]
  rfl

theorem listeners_finish (hrun : c.run.isSome = true) (outcome : RunOutcome R) :
    (c.finish outcome).listeners = c.listeners := by
  rw [finish_eq hrun]
  rfl

theorem brings_finish (hrun : c.run.isSome = true) (outcome : RunOutcome R) :
    c.Brings [.runFinished { outcome, trashCollected := c.game.trashCollected }]
      (c.finish outcome) where
  log_eq := by
    rw [finish_eq hrun, log_report, log_emit, log_note]
    rfl
  events_eq := by
    rw [finish_eq hrun]
    exact Array.toList_push
  runs_eq := by
    rw [finish_eq hrun, runs_report, runs_emit, runs_note _ rfl]
    rfl
  listeners_le := Nat.le_of_eq (listeners_finish hrun outcome).symm
  told_eq k hk := by
    rw [told_finish hrun, if_pos hk]
    rfl
  untold huntold k hk := by
    rw [listeners_finish hrun] at hk
    rw [told_finish hrun, if_neg (Nat.not_lt_of_le hk), List.append_nil]
    exact huntold k hk
  balance := by
    rw [finish_eq hrun, hrun]
    rfl
  reports_eq report hreport := by
    cases List.mem_singleton.mp hreport
    rw [finish_eq hrun]
    exact ⟨rfl, c.trashCollected_ended outcome⟩
  still hnone := by
    rw [hnone] at hrun
    cases hrun

/-! ### Beats -/

theorem brings_spawn (c : Controller R) (id : UInt32) (ocean : Ocean R) :
    c.Brings [.trashSpawned id] ({ c with ocean }.emit (.trashSpawned id)) := by
  have hocean : c.Brings [] { c with ocean } :=
    brings_nil rfl rfl (Nat.le_refl _) rfl fun _ => ⟨rfl, rfl⟩
  exact hocean.trans (brings_emit _ (.trashSpawned id) rfl)

theorem brings_collect (hrun : c.run.isSome = true) (id total : UInt32)
    (trash : List (TrashItem R)) :
    c.Brings [.trashCollected id total]
      ((c.withTrash trash total).emit (.trashCollected id total)) := by
  have htrash : c.Brings [] (c.withTrash trash total) := by
    refine brings_nil rfl rfl (Nat.le_refl _) rfl ?_
    intro hnone
    rw [hnone] at hrun
    cases hrun
  exact htrash.trans (brings_emit _ (.trashCollected id total) rfl)

theorem brings_collide (hrun : c.run.isSome = true) (index : Nat) :
    c.Brings
      [.coralHit index,
        .runFinished { outcome := .collision, trashCollected := c.game.trashCollected }]
      ((c.emit (.coralHit index)).finish .collision) := by
  have hfinish := brings_finish (c := c.emit (.coralHit index)) hrun .collision
  exact (c.brings_emit (.coralHit index) rfl).trans hfinish

theorem Beat.brings (h : c.Beat c') : ∃ news, c.Brings news c' := by
  cases h with
  | notes hnotice => exact ⟨[], c.brings_note hnotice⟩
  | listens =>
    exact ⟨[], brings_nil rfl rfl (Nat.le_succ _) rfl fun _ => ⟨rfl, rfl⟩⟩
  | hosts | ages => exact ⟨[], brings_nil rfl rfl (Nat.le_refl _) rfl fun _ => ⟨rfl, rfl⟩⟩
  | spawns => exact ⟨_, c.brings_spawn _ _⟩
  | collects hrun => exact ⟨_, brings_collect hrun _ _ _⟩
  | works hrun => exact ⟨[], brings_nil rfl rfl (Nat.le_refl _) hrun.symm fun _ => ⟨rfl, rfl⟩⟩
  | ends hrun => exact ⟨_, brings_finish hrun _⟩
  | collides index hrun => exact ⟨_, brings_collide hrun index⟩

theorem Beats.brings (h : c.Beats c') : ∃ news, c.Brings news c' := by
  induction h with
  | refl => exact ⟨[], .refl c⟩
  | tail _ hbeat ih =>
    obtain ⟨news, hnews⟩ := ih
    obtain ⟨news', hnews'⟩ := hbeat.brings
    exact ⟨news ++ news', hnews.trans hnews'⟩

end Controller

end ReefRover
