import ReefRover.Proofs.Ocean.Border
import ReefRover.Proofs.Ocean.Lifetime
import ReefRover.Proofs.Run.Looks

/-!
This module contains the proof that trash only grows, gets collected and stays, in exact arithmetic,
through all commands that a host can give.
-/

namespace ReefRover

section Exact

variable [Exact]

namespace Controller

open TrashItem

variable {c : Controller ℝ} {dt : ℝ}

theorem exists_trash_tick (h : c.Consistent) (hdt : 0 ≤ dt) :
    ∃ grown spawned, (c.tick dt).ocean.trash = grown ++ spawned ∧
      List.Forall₂ (fun item item' => item.Becomes item' ∧ (item.Grown → item'.Grown))
        c.ocean.trash grown ∧
      spawned.length ≤ 1 ∧
      ∀ item ∈ spawned, item.scale = 0 ∧ item.Grown ∧
        (item.isCollected = true → c.isRunning = true ∧
          (c.tick dt).robot.position.distance item.position <
            Contact.robotRadius c.ocean.layout.factor) := by
  obtain ⟨spawned, hspawns, hlength, hspawned⟩ :=
    c.ocean.exists_spawned c.settings c.game.isSpawningTrash dt
  obtain ⟨look, htrash, hlook⟩ := exists_look h dt
  have hseen (item : TrashItem ℝ) :
      item.Becomes (look item) ∧ (item.Grown → (look item).Grown) := by
    rcases hlook with rfl | ⟨-, rfl⟩
    . exact ⟨.refl item, id⟩
    . exact ⟨item.becomes_gathered, Grown.gathered⟩
  rw [ocean_tickOcean, hspawns, List.map_append, List.map_map] at htrash
  refine ⟨_, _, htrash, ?_, (List.length_map look).trans_le hlength, ?_⟩
  . rw [List.forall₂_map_right_iff, List.forall₂_same]
    intro item _
    obtain ⟨hbecomes, hgrown⟩ := hseen (item.tick dt)
    exact ⟨(item.becomes_tick hdt).trans hbecomes, fun h => hgrown (h.tick hdt)⟩
  . intro item hitem
    obtain ⟨fresh, hfresh, rfl⟩ := List.mem_map.mp hitem
    have hspawnable := hspawned fresh hfresh
    obtain ⟨hbecomes, hgrown⟩ := hseen fresh
    rcases hlook with rfl | ⟨hrunning, rfl⟩
    . refine ⟨hspawnable.scale, hspawnable.grown, fun hcollected => ?_⟩
      exact absurd (hspawnable.uncollected.symm.trans hcollected) Bool.false_ne_true
    . refine ⟨?_, hgrown hspawnable.grown, fun hcollected => ⟨hrunning, ?_⟩⟩
      . rw [scale_gathered]
        exact hspawnable.scale
      . rw [hbecomes.position_eq]
        exact hspawnable.near_of_gathered hcollected

def Grown (c : Controller ℝ) : Prop :=
  ∀ item ∈ c.ocean.trash, item.Grown

theorem Grown.tick (h : c.Grown) (hc : c.Consistent) (hdt : 0 ≤ dt) : (c.tick dt).Grown := by
  obtain ⟨grown, spawned, htrash, hgrown, -, hspawned⟩ := exists_trash_tick hc hdt
  intro item hitem
  rw [htrash] at hitem
  rcases List.mem_append.mp hitem with hitem | hitem
  . obtain ⟨before, hbefore, -, hgrows⟩ := exists_of_forall₂ hgrown.flip hitem
    exact hgrows (h before hbefore)
  . exact (hspawned item hitem).2.1

omit [Exact] in
theorem grown_of_trash_eq_nil (htrash : c.ocean.trash = []) : c.Grown := by
  intro item hitem
  rw [htrash] at hitem
  cases hitem

omit [Exact] in
theorem Grown.finish (h : c.Grown) (outcome : RunOutcome ℝ) : (c.finish outcome).Grown := by
  apply finish_induction (P := Grown)
  . intro d e _ hocean _ hd
    unfold Grown
    rw [hocean]
    exact hd
  . exact h

theorem Grown.start (h : c.Grown) (program : Program ℝ) : (c.start program).2.Grown := by
  unfold Controller.start
  split
  . exact h
  . exact grown_of_trash_eq_nil rfl

theorem Grown.obey (h : c.Grown) (hc : c.Consistent) {command : Command ℝ}
    (htick : ∀ dt, command = .tick dt → 0 ≤ dt) : (c.obey command).Grown := by
  cases command with
  | start program => exact h.start program
  | startDecoded decoded =>
    change (c.startDecoded decoded).2.Grown
    rcases c.startDecoded_cases decoded with ⟨program, heq⟩ | ⟨outcome, -, heq⟩
    . rw [heq]
      exact h.start program
    . rw [heq]
      exact (h.start []).finish outcome
  | stop => exact h.finish .stopped
  | reset | clear => exact grown_of_trash_eq_nil rfl
  | setLayout layout =>
    change (c.setLayout layout).2.Grown
    unfold setLayout
    split
    . exact h
    . exact grown_of_trash_eq_nil rfl
  | listen | drainEvents => exact h
  | tick dt => exact h.tick hc (htick dt rfl)
  | advance frame =>
    have hstep : (0 : ℝ) ≤ Tuning.timestep := by
      rw [Tuning.timestep_eq]
      norm_num
    suffices hboth : (c.advance frame).2.Grown ∧ (c.advance frame).2.Consistent from hboth.1
    apply advance_induction (P := fun d => d.Grown ∧ d.Consistent)
    . rintro d accumulator ⟨hgrown, hd⟩
      exact ⟨hgrown, { hd with }⟩
    . rintro d ⟨hgrown, hd⟩
      exact ⟨hgrown.tick hd hstep, hd.moves (d.beats_tick _).moves⟩
    . exact ⟨h, hc⟩

theorem Grown.after (h : c.Grown) (hc : c.Consistent) {commands : List (Command ℝ)}
    (hticks : ∀ dt, .tick dt ∈ commands → 0 ≤ dt) : (c.after commands).Grown := by
  suffices hboth : (c.after commands).Grown ∧ (c.after commands).Consistent from hboth.1
  apply after_induction (P := fun d => d.Grown ∧ d.Consistent) _ ⟨h, hc⟩
  rintro d ⟨hgrown, hd⟩ command hcommand
  refine ⟨hgrown.obey hd ?_, hd.moves (moves_obey hd command)⟩
  rintro dt rfl
  exact hticks dt hcommand

/-! ### Trash that comes up below the robot -/

/-- Settings with which the first piece of trash comes up in the middle of the canvas, at once. -/
noncomputable def hasty : Settings ℝ :=
  { (Settings.defaults : Settings ℝ) with spawnInterval := 1 / 200, seed := some 428 }

theorem attempts_of_hasty (hfinite : Scalar.isFinite (1 / 200 : ℝ) = true) (program : Program ℝ) :
    ((new hasty 0).start program).2.ocean.attempts true Tuning.timestep = true := by
  have htimer : ((new hasty 0).start program).2.ocean.spawnTimer = 1 / 200 := by
    change hasty.effectiveSpawnInterval = 1 / 200
    rw [Settings.effectiveSpawnInterval_eq, if_pos]
    . rfl
    . refine ⟨hfinite, ?_⟩
      norm_num [hasty]
  unfold Ocean.attempts
  rw [htimer, Bool.true_and, decide_eq_true_iff, Exact.zero_eq, Tuning.timestep_eq]
  norm_num

theorem random_of_hasty :
    (new hasty 0).ocean.random = ⟨601844926087334285, 18021631434692561895⟩ := by
  change ((Reef.pieces .normal : Random (List (CoralPiece ℝ))).run (.ofSeed 428)).2 = _
  rw [Reef.pieces_snd, Reef.cells_exact]
  decide +kernel

theorem reached_of_hasty :
    (((TrashItem.fresh .normal 1).run (new hasty 0).ocean.random).1 : TrashItem ℝ).Reached
      (new hasty 0).ocean.center Layout.normal.factor := by
  have hcenter : (new hasty 0).ocean.center = ⟨200, 200⟩ := by
    have hhalf : (Layout.normal.canvasSize / Scalar.ofNat 2 : ℝ) = 200 := by
      rw [Layout.canvasSize_eq, Layout.exactFactor]
      exact (congrArg (_ / ·) Nat.cast_ofNat).trans (by norm_num)
    exact congrArg₂ Point.mk hhalf hhalf
  rw [hcenter, random_of_hasty]
  generalize hg : (⟨601844926087334285, 18021631434692561895⟩ : Generator) = g
  have hspawnable := TrashItem.spawnable_fresh .normal 1 g
  have hwords : ((Random.word.run g).1 >>> 9).toNat = 4378982 ∧
      ((Random.word.run g.advance).1 >>> 9).toNat = 4238557 := by
    rw [← hg]
    decide +kernel
  refine ⟨hspawnable.uncollected, ?_⟩
  unfold Contact.trashRadius
  rw [hspawnable.scale, mul_zero, add_zero, Layout.robotRadius_eq, Layout.exactFactor,
    TrashItem.position_fresh_normal]
  dsimp only
  rw [hwords.1, hwords.2]
  refine (Point.distance_le (a := 8) (b := 2) (c := 10) ?_ ?_ ?_ ?_).trans_lt ?_
  all_goals norm_num [abs_le]

theorem trash_of_hasty {degrees : ℝ} (hdegrees : degrees ≠ 0)
    (hfinite : ∀ a : ℝ, Scalar.isFinite a = true) :
    let started := ((new hasty 0).start [.action (.setDriveRotation (some degrees))]).2
    (started.tick Tuning.timestep).ocean.trash =
      [((TrashItem.fresh .normal 1).run (new hasty 0).ocean.random).1.taken] := by
  intro started
  have hattempts : started.ocean.attempts started.game.isSpawningTrash Tuning.timestep = true :=
    attempts_of_hasty (hfinite _) _
  have htrash := trash_of_turning (c := new hasty 0) rfl hdegrees (hfinite _) Tuning.timestep
  dsimp only at htrash
  rw [ocean_tickOcean, Ocean.tick_of_attempts hattempts] at htrash
  exact htrash.trans (congrArg (fun item => [item]) (if_pos reached_of_hasty))

/-! ### The life of the trash -/

/--
Trash only grows, gets collected and stays. A timestep leaves all trash in its place in the list,
at its position, of its kind and with its target scale; collected trash is left as it is, so it is
never given back. One piece at most comes up, behind the others and without a size. It is not
collected yet, unless the robot of a run is right over it. No piece is ever larger than its target
scale, and none is picked up from farther away than at that size.
-/
theorem trash_grows_and_stays (settings : Settings ℝ) (session : UInt64)
    (commands : List (Command ℝ)) :
    let c := (new settings session).after commands
    let c' := c.tick Tuning.timestep
    (∀ dt, .tick dt ∈ commands → dt = Tuning.timestep) →
      (∃ grown spawned, c'.ocean.trash = grown ++ spawned ∧
        List.Forall₂ Becomes c.ocean.trash grown ∧ spawned.length ≤ 1 ∧
        ∀ item ∈ spawned, item.scale = 0 ∧
          (item.isCollected = true → c.isRunning = true ∧
            c'.robot.position.distance item.position <
              Contact.robotRadius c.ocean.layout.factor)) ∧
      ∀ item ∈ c.ocean.trash, 0 ≤ item.scale ∧ item.scale ≤ item.targetScale ∧
        Contact.trashRadius item c.ocean.layout.factor ≤
          Tuning.trashRadius * c.ocean.layout.factor * item.targetScale := by
  intro c c' hticks
  have hstep : (0 : ℝ) ≤ Tuning.timestep := by
    rw [Tuning.timestep_eq]
    norm_num
  have hc : c.Consistent := consistent_after settings session commands
  have hgrown : c.Grown := by
    apply (grown_of_trash_eq_nil rfl).after (consistent_new settings session)
    intro dt hdt
    exact hstep.trans_eq (hticks dt hdt).symm
  constructor
  . obtain ⟨grown, spawned, htrash, hbecomes, hlength, hspawned⟩ := exists_trash_tick hc hstep
    refine ⟨grown, spawned, htrash, hbecomes.imp fun _ _ h => h.1, hlength, ?_⟩
    intro item hitem
    exact ⟨(hspawned item hitem).1, (hspawned item hitem).2.2⟩
  . intro item hitem
    have h := hgrown item hitem
    exact ⟨h.nonneg, h.le_target, h.trashRadius_le _⟩

end Controller

end Exact

namespace Controller

/--
A piece of trash that comes up right below the robot is collected in the same timestep, if that is
when the program turns the robot.
-/
theorem fresh_trash_is_collected :
    let _ : Exact :=
      { facing := fun degrees =>
          (Real.sin (degrees * Real.pi / 180), -Real.cos (degrees * Real.pi / 180))
        isFinite := fun _ => true }
    let c := (new hasty 0).after [.start [.action (.setDriveRotation (some 90))]]
    c.ocean.trash = [] ∧
      ∃ item, (c.tick Tuning.timestep).ocean.trash = [item] ∧ item.isCollected = true := by
  intro exact c
  exact ⟨rfl, _, trash_of_hasty (by norm_num : (90 : ℝ) ≠ 0) fun _ => rfl, rfl⟩

theorem trash_grows_and_stays_below_robot :
    let _ : Exact :=
      { facing := fun degrees =>
          (Real.sin (degrees * Real.pi / 180), -Real.cos (degrees * Real.pi / 180))
        isFinite := fun _ => true }
    let c := (new hasty 0).after
      [.start [.action (.setDriveRotation (some 90))], .tick Tuning.timestep]
    ∃ item, c.ocean.trash = [item] ∧ item.isCollected = true ∧ item.scale ≤ item.targetScale ∧
      ∃ spawned, (c.tick Tuning.timestep).ocean.trash = item :: spawned ∧ spawned.length ≤ 1 := by
  intro exact c
  have htrash : c.ocean.trash = [_] :=
    trash_of_hasty (by norm_num : (90 : ℝ) ≠ 0) fun _ => rfl
  obtain ⟨⟨grown, spawned, hlater, hbecomes, hlength, -⟩, hsizes⟩ := trash_grows_and_stays hasty 0
    [.start [.action (.setDriveRotation (some 90))], .tick Tuning.timestep] (by simp)
  change List.Forall₂ _ c.ocean.trash grown at hbecomes
  change ∀ item ∈ c.ocean.trash, _ at hsizes
  rw [htrash] at hbecomes hsizes
  obtain ⟨item, rest, hitem, hrest, rfl⟩ := List.forall₂_cons_left_iff.mp hbecomes
  obtain rfl := List.forall₂_nil_left_iff.mp hrest
  obtain rfl := hitem.eq_of_collected rfl
  exact ⟨_, htrash, rfl, (hsizes _ List.mem_cons_self).2.1, spawned, hlater, hlength⟩

end Controller

end ReefRover
