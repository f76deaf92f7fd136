import ReefRover.Proofs.Run.Move

/-!
This module contains how the parts of a controller go together: the run, the phase, the game, the
robot and the ocean. No move takes the parts out of step, and from parts in step every command is a
sequence of moves, so whatever moves keep holds in all histories.
-/

namespace ReefRover

variable {R : Type}

theorem RunOutcome.isLoss_iff {outcome : RunOutcome R} :
    outcome.isLoss = true ↔ outcome = .collision ∨ ∃ e, outcome = .failed e := by
  cases outcome with
  | completed | stopped => simp [isLoss]
  | collision => simp [isLoss]
  | failed e => simp [isLoss]

namespace Controller

theorem isRunning_iff {c : Controller R} : c.isRunning = true ↔ c.phase = .running := by
  unfold isRunning RunPhase.isRunning
  split
  . next hphase => simp [hphase]
  . next hphase => simp [hphase]
  . next hphase => simp [hphase]

theorem ne_idle {c : Controller R} (hrunning : c.isRunning = true) : c.phase ≠ .idle := by
  rw [isRunning_iff.mp hrunning]
  nofun

theorem isGameOver_ended {c : Controller R} (h : c.game.isGameOver = false)
    (outcome : RunOutcome R) : (c.ended outcome).game.isGameOver = outcome.isLoss := by
  cases outcome with
  | completed | stopped => exact h
  | collision | failed => rfl

theorem gameLost_ended {c : Controller R} (h : c.game.gameLost = false)
    (outcome : RunOutcome R) : (c.ended outcome).game.gameLost = outcome.isLoss := by
  cases outcome with
  | completed | stopped => exact h
  | collision | failed => rfl

theorem isSpawningTrash_ended (c : Controller R) (outcome : RunOutcome R) :
    (c.ended outcome).game.isSpawningTrash = false := by
  cases outcome with
  | completed | stopped | collision | failed => rfl

theorem lost_iff_of_not_over {game : GameState} {phase : RunPhase R} (hgame : game.gameLost = false)
    (hphase : ∀ outcome, phase ≠ .finished outcome) :
    game.gameLost = true ↔ phase = .finished .collision ∨ ∃ e, phase = .finished (.failed e) := by
  simp [hgame, hphase]

variable [Scalar R]

structure Consistent (c : Controller R) : Prop where
  run_isSome : c.run.isSome = c.isRunning
  cancelled : c.isRunning = true → c.rig.cancelled = false
  isSpawningTrash : c.game.isSpawningTrash = (c.isRunning && c.settings.trashSpawning)
  isGameOver : c.game.isGameOver = c.game.gameLost
  gameLost : c.game.gameLost = true ↔
    c.phase = .finished .collision ∨ ∃ e, c.phase = .finished (.failed e)
  idle : c.phase = .idle →
    c.robot = .atRest c.ocean.center ∧ c.ocean.trash = [] ∧ c.game.trashCollected = 0
  layout : c.ocean.layout = c.settings.layout

variable {c c' : Controller R} {begun : Nat} {taken : List (GameEvent R)}

namespace Consistent

theorem run_eq_none (h : c.Consistent) (hrunning : c.isRunning = false) : c.run = none := by
  have hrun := h.run_isSome
  rw [hrunning] at hrun
  exact Option.not_isSome_iff_eq_none.mp (ne_true_of_eq_false hrun)

theorem isRunning (h : c.Consistent) (hrun : c.run.isSome = true) : c.isRunning = true :=
  h.run_isSome ▸ hrun

theorem not_lost (h : c.Consistent) (hrunning : c.isRunning = true) : c.game.gameLost = false := by
  have hphase := isRunning_iff.mp hrunning
  cases hlost : c.game.gameLost with
  | false => rfl
  | true =>
    rcases h.gameLost.mp hlost with hover | ⟨e, hover⟩
    . rw [hphase] at hover
      cases hover
    . rw [hphase] at hover
      cases hover

theorem withOcean (h : c.Consistent) {ocean : Ocean R} (hlayout : ocean.layout = c.ocean.layout)
    (htrash : c.phase = .idle → c.ocean.trash = [] → ocean.trash = []) :
    Consistent { c with ocean } :=
  { h with
    idle := by
      intro hphase
      obtain ⟨hrobot, hempty, htotal⟩ := h.idle hphase
      refine ⟨?_, htrash hphase hempty, htotal⟩
      unfold Ocean.center
      dsimp only
      rw [hlayout]
      exact hrobot
    layout := hlayout.trans h.layout }

theorem finish (h : c.Consistent) (hrun : c.run.isSome = true) (outcome : RunOutcome R) :
    (c.finish outcome).Consistent := by
  have hlost := h.not_lost (h.isRunning hrun)
  have hgameLost := gameLost_ended hlost outcome
  rw [finish_eq hrun]
  exact
    { run_isSome := rfl
      cancelled := nofun
      isSpawningTrash := c.isSpawningTrash_ended outcome
      isGameOver := (isGameOver_ended (h.isGameOver.trans hlost) outcome).trans hgameLost.symm
      gameLost := by
        have hphase : (c.ended outcome).phase = .finished outcome := rfl
        change (c.ended outcome).game.gameLost = true ↔
          (c.ended outcome).phase = _ ∨ ∃ e, (c.ended outcome).phase = _
        rw [hgameLost, RunOutcome.isLoss_iff, hphase]
        simp
      idle := nofun
      layout := h.layout }

theorem beat (h : c.Consistent) (hbeat : c.Beat c') : c'.Consistent := by
  cases hbeat with
  | notes | listens | hosts => exact { h with }
  | ages hages =>
    apply h.withOcean hages.layout_eq
    intro _ hempty
    rw [Ocean.trash_eq_nil_iff, hages.marks_eq, ← Ocean.trash_eq_nil_iff]
    exact hempty
  | spawns hspawning hlive hspawns =>
    have hrunning : c.isRunning = true := by
      rw [h.isSpawningTrash, Bool.and_eq_true] at hspawning
      exact hspawning.1
    have hocean := h.withOcean hspawns.layout_eq fun hphase => absurd hphase (ne_idle hrunning)
    exact { hocean with }
  | collects hrun hcollects =>
    exact { h with idle := fun hphase => absurd hphase (ne_idle (h.isRunning hrun)) }
  | works hrun hcancelled =>
    have hrunning := h.isRunning hrun
    exact
      { h with
        run_isSome := hrunning.symm
        cancelled := fun _ => hcancelled.trans (h.cancelled hrunning)
        idle := fun hphase => absurd hphase (ne_idle hrunning) }
  | ends hrun => exact h.finish hrun _
  | collides index hrun =>
    have hemitted : (c.emit (.coralHit index)).Consistent := { h with }
    exact hemitted.finish hrun .collision

theorem move (h : c.Consistent) (hmove : c.Move begun taken c') : c'.Consistent := by
  cases hmove with
  | beats hbeat => exact h.beat hbeat
  | begins script hnotice hrunning =>
    exact
      { run_isSome := rfl
        cancelled := fun _ => rfl
        isSpawningTrash := (Bool.true_and _).symm
        isGameOver := rfl
        gameLost := lost_iff_of_not_over rfl nofun
        idle := nofun
        layout := h.layout }
  | @wipes ocean hrun htrash hnextId =>
    exact
      { run_isSome := by
          unfold wiped
          dsimp only
          rw [hrun]
          rfl
        cancelled := nofun
        isSpawningTrash := rfl
        isGameOver := rfl
        gameLost := lost_iff_of_not_over rfl nofun
        idle := fun _ => ⟨rfl, htrash, rfl⟩
        layout := rfl }
  | drains => exact { h with }

theorem moves (h : c.Consistent) (hmoves : c.Moves begun taken c') : c'.Consistent := by
  induction hmoves with
  | refl => exact h
  | tail _ hmove ih => exact ih.move hmove

end Consistent

/-! ### Commands -/

theorem moves_reset (h : c.Consistent) : c.Moves 0 [] c.reset := by
  rw [reset_eq (h.moves c.beats_stop.moves).layout]
  have hwiped : c.stop.Move 0 [] (c.stop.wiped c.stop.ocean.clearTrash) :=
    .wipes (c.run_finish .stopped) rfl rfl
  exact c.beats_stop.moves.trans hwiped.moves

theorem moves_setLayout (h : c.Consistent) (layout : Layout) :
    c.Moves 0 [] (c.setLayout layout).2 := by
  unfold setLayout
  split
  . exact c.moves_note rfl
  . next hrunning =>
    have hrun := h.run_eq_none (Bool.eq_false_of_not_eq_true hrunning)
    -- the notice of the new reef comes first, and then the rest at once
    let ocean := ({ c.ocean with layout } : Ocean R).growReef
    let c₁ := c.note (.reefGenerated ocean.coral.length layout)
    have hwiped : c₁.Move 0 [] (c₁.wiped ocean.clearTrash) := .wipes hrun rfl rfl
    let c₂ := { c₁ with settings := { c.settings with layout }, ocean }
    have hrun₂ : c₂.run = none := hrun
    have hstop : c₂.stop = c₂ := finish_of_run_eq_none hrun₂ .stopped
    have hreset : c₂.reset = c₁.wiped ocean.clearTrash := by
      rw [reset_eq (by rw [hstop]; rfl), hstop]
      rfl
    have hmoves := (c.moves_note rfl).trans hwiped.moves
    rw [← hreset] at hmoves
    exact hmoves.beats (Beat.notes rfl).beats

theorem moves_obey (h : c.Consistent) (command : Command R) :
    c.Moves (c.begins command).toNat (c.takes command) (c.obey command) := by
  cases command with
  | start program =>
    rw [begins_start]
    exact c.moves_start program
  | startDecoded decoded =>
    rw [begins_startDecoded]
    exact c.moves_startDecoded decoded
  | stop => exact c.beats_stop.moves
  | reset => exact moves_reset h
  | clear => exact (moves_reset h).trans Move.drains.moves
  | setLayout layout => exact moves_setLayout h layout
  | listen => exact Beat.listens.beats.moves
  | tick dt => exact (c.beats_tick dt).moves
  | advance frame => exact (c.beats_advance frame).moves
  | drainEvents => exact Move.drains.moves

theorem moves_after (h : c.Consistent) (commands : List (Command R)) :
    c.Moves (c.begun commands) (c.taken commands) (c.after commands) := by
  induction commands generalizing c with
  | nil => exact .refl
  | cons command commands ih =>
    have hobey := moves_obey h command
    exact hobey.trans (ih (h.moves hobey))

/-! ### The events of a history -/

theorem Move.unfolds (hmove : c.Move begun taken c') (h : c.Consistent) :
    ∃ news, c.Unfolds begun taken news c' := by
  cases hmove with
  | beats hbeat =>
    obtain ⟨news, hnews⟩ := hbeat.brings
    exact ⟨news, hnews.toUnfolds⟩
  | begins script hnotice hrunning =>
    have hlaunched : c.Unfolds 1 [] [] (c.launched script) := by
      refine unfolds_nil rfl rfl (Nat.le_refl _) ?_
      rw [h.run_eq_none hrunning]
      rfl
    exact ⟨[], hlaunched.trans (unfolds_note _ _)⟩
  | wipes hrun => exact ⟨[], unfolds_nil rfl rfl (Nat.le_refl _) rfl⟩
  | drains => exact ⟨[], unfolds_nil rfl (List.append_nil _) (Nat.le_refl _) rfl⟩

theorem Moves.unfolds (hmoves : c.Moves begun taken c') (h : c.Consistent) :
    ∃ news, c.Unfolds begun taken news c' := by
  induction hmoves with
  | refl => exact ⟨[], (Brings.refl c).toUnfolds⟩
  | tail hmoves hmove ih =>
    obtain ⟨news, hnews⟩ := ih
    obtain ⟨news', hnews'⟩ := hmove.unfolds (h.moves hmoves)
    exact ⟨news ++ news', hnews.trans hnews'⟩

theorem Consistent.after (h : c.Consistent) (commands : List (Command R)) :
    (c.after commands).Consistent :=
  h.moves (moves_after h commands)

theorem consistent_new (settings : Settings R) (session : UInt64) :
    (new settings session).Consistent where
  run_isSome := rfl
  cancelled := nofun
  isSpawningTrash := rfl
  isGameOver := rfl
  gameLost := lost_iff_of_not_over rfl nofun
  idle _ := ⟨rfl, rfl, rfl⟩
  layout := rfl

/-- The parts of a controller go together whatever its host does with it. -/
theorem consistent_after (settings : Settings R) (session : UInt64)
    (commands : List (Command R)) : ((new settings session).after commands).Consistent :=
  (consistent_new settings session).after commands

end Controller

end ReefRover
