import Mathlib
import ReefRover.Proofs.Ocean.Marks
import ReefRover.Proofs.Scalar.Durations

/-!
This module contains when the spawner makes attempts, and what they add to the ocean. Its clock goes
on from where it ran out, so in exact arithmetic nothing is lost from one attempt to the next.
-/

namespace ReefRover

theorem Settings.effectiveSpawnInterval_eq [Exact] (settings : Settings ℝ) :
    settings.effectiveSpawnInterval =
      if Scalar.isFinite settings.spawnInterval = true ∧ 0 < settings.spawnInterval then
        settings.spawnInterval
      else
        2 := by
  unfold effectiveSpawnInterval
  rw [Exact.zero_eq, Tuning.spawnInterval_eq]
  simp only [Bool.and_eq_true, decide_eq_true_eq]

namespace Ocean

variable {R : Type} [Scalar R]

def aged (ocean : Ocean R) (dt timer : R) : Ocean R :=
  { ocean with trash := ocean.trash.map (·.tick dt), spawnTimer := timer }

def attempts (ocean : Ocean R) (spawning : Bool) (dt : R) : Bool :=
  spawning && decide (ocean.spawnTimer - dt ≤ Scalar.zero)

theorem tick_of_attempts {ocean : Ocean R} {spawning : Bool} {dt : R}
    (h : ocean.attempts spawning dt = true) (settings : Settings R) :
    ocean.tick settings spawning dt =
      (ocean.aged dt (ocean.spawnTimer - dt + settings.effectiveSpawnInterval)).trySpawn
        settings.maxTrash := by
  obtain ⟨rfl, hout⟩ := Bool.and_eq_true_iff.mp h
  unfold tick
  dsimp only
  rw [Bool.not_true, if_neg Bool.false_ne_true, if_pos (of_decide_eq_true hout)]
  rfl

theorem tick_of_not_attempts {ocean : Ocean R} {spawning : Bool} {dt : R}
    (h : ocean.attempts spawning dt = false) (settings : Settings R) :
    ocean.tick settings spawning dt =
      (none, ocean.aged dt (if spawning then ocean.spawnTimer - dt else ocean.spawnTimer)) := by
  unfold attempts at h
  unfold tick
  dsimp only
  cases spawning with
  | false => rfl
  | true =>
    rw [Bool.true_and] at h
    rw [Bool.not_true, if_neg Bool.false_ne_true, if_neg (of_decide_eq_false h)]
    rfl

theorem ages_aged (ocean : Ocean R) (dt timer : R) : ocean.Ages (ocean.aged dt timer) :=
  ocean.ages_tick_items dt timer

theorem liveTrash_aged (ocean : Ocean R) (dt timer : R) :
    (ocean.aged dt timer).liveTrash = ocean.liveTrash := by
  rw [liveTrash_eq, liveTrash_eq, (ocean.ages_aged dt timer).marks_eq]

theorem spawnTimer_trySpawn (ocean : Ocean R) (most : Nat) :
    (ocean.trySpawn most).2.spawnTimer = ocean.spawnTimer := by
  unfold trySpawn
  split
  . rfl
  . rfl

theorem marks_trySpawn (ocean : Ocean R) (most : Nat) :
    (ocean.trySpawn most).2.marks =
      ocean.marks ++ if ocean.liveTrash < most then [(ocean.nextId, false)] else [] := by
  unfold trySpawn
  split
  . exact ocean.spawns_spawn.marks_eq
  . exact (List.append_nil _).symm

theorem marks_tick (ocean : Ocean R) (settings : Settings R) (spawning : Bool) (dt : R) :
    (ocean.tick settings spawning dt).2.marks =
      ocean.marks ++
        if ocean.attempts spawning dt = true ∧ ocean.liveTrash < settings.maxTrash then
          [(ocean.nextId, false)]
        else
          [] := by
  cases hattempts : ocean.attempts spawning dt with
  | false =>
    rw [tick_of_not_attempts hattempts, (ocean.ages_aged dt _).marks_eq]
    simp
  | true =>
    rw [tick_of_attempts hattempts, marks_trySpawn, liveTrash_aged, (ocean.ages_aged dt _).marks_eq,
      (ocean.ages_aged dt _).nextId_eq]
    simp

def timerAfter (ocean : Ocean R) (settings : Settings R) (dt : R) : R :=
  if ocean.attempts true dt then
    ocean.spawnTimer - dt + settings.effectiveSpawnInterval
  else
    ocean.spawnTimer - dt

theorem spawnTimer_tick (ocean : Ocean R) (settings : Settings R) (dt : R) :
    (ocean.tick settings true dt).2.spawnTimer = ocean.timerAfter settings dt := by
  unfold timerAfter
  cases hattempts : ocean.attempts true dt with
  | false => rw [tick_of_not_attempts hattempts]; rfl
  | true => rw [tick_of_attempts hattempts, spawnTimer_trySpawn]; rfl

theorem timerAfter_eq [Exact] (ocean : Ocean ℝ) (settings : Settings ℝ) (dt : ℝ) :
    ocean.timerAfter settings dt =
      ocean.spawnTimer - dt +
        (ocean.attempts true dt).toNat * settings.effectiveSpawnInterval := by
  unfold timerAfter
  cases ocean.attempts true dt with
  | false => simp
  | true => simp

theorem timerAfter_bounds [Exact] {ocean : Ocean ℝ} {settings : Settings ℝ} {dt : ℝ}
    (hpos : 0 < ocean.spawnTimer) (hle : ocean.spawnTimer ≤ settings.effectiveSpawnInterval)
    (hdt : 0 < dt) (hshort : dt ≤ settings.effectiveSpawnInterval) :
    0 < ocean.timerAfter settings dt ∧
      ocean.timerAfter settings dt ≤ settings.effectiveSpawnInterval := by
  unfold timerAfter attempts
  rw [Bool.true_and, Exact.zero_eq]
  split
  . next hout =>
    have hout := of_decide_eq_true hout
    constructor
    . linarith
    . linarith
  . next hnot =>
    have hleft := not_le.mp (mt decide_eq_true hnot)
    exact ⟨hleft, by linarith⟩

end Ocean

end ReefRover
