import ReefRover.Proofs.Machine.Nesting
import ReefRover.Proofs.Machine.Over
import ReefRover.Proofs.Machine.Parked
import ReefRover.Proofs.Machine.Settle

/-!
This module contains the proof that a program which waits for a condition without the clock in it
waits for ever. The robot is at rest while a condition is waited for, so nothing that the condition
reads changes, and it was false when the program came to it.
-/

namespace ReefRover

variable {R : Type} [Scalar R]

namespace Machine

variable {m m' : Machine R} {around : Surroundings R} {dt : R} {states : List (Machine R)}
  {result : Except (ExecutionError R) Progress}

theorem test_eq_of_readsClock {condition : CondId}
    (h : (m.script.condition condition).readsClock = false) (around around' : Surroundings R)
    (op : String) : m.test around condition op = m.test around' condition op := by
  unfold test
  rw [Expr.test_eq_of_timeless h m.robot around.clock around'.clock]

theorem animate_of_motion (h : m.motion = none) (dt : R) : m.handle (.animate dt) = m := by
  unfold handle withRig
  dsimp only
  rw [Rig.step_of_motion h]

def AwaitsInVain (m : Machine R) : Prop :=
  ∀ condition left, m.wait = .poll condition left →
    (m.script.condition condition).readsClock = false →
      ∀ around, m.test around condition "waitUntil" = .ok false

theorem Advances.awaitsInVain [Tuning.Valid R] (h : m.Advances around dt states m' result)
    (hparked : m.Parked) (hm : m.AwaitsInVain) : m'.AwaitsInVain := by
  have hsilent : Parked { m with console := #[] } := ⟨hparked.still⟩
  cases h with
  | cancelled | finished | fails => exact hm
  | waits hcancelled hdone hserve =>
    intro condition left' hwait hclock
    dsimp only at hwait
    subst hwait
    obtain ⟨left, hpoll⟩ := exists_poll_of_serve hserve
    exact hm condition left hpoll hclock
  | runs hcancelled hdone hserve hcourse =>
    intro condition left hpoll hclock around'
    obtain ⟨-, hwait | ⟨rfl, -⟩⟩ := hcourse.waits rfl
    . rw [hwait] at hpoll
      cases hpoll
    . have hsuspended := hcourse.suspended ⟨hsilent.motion_of_serve hserve, rfl⟩
      rw [test_eq_of_readsClock hclock around' around]
      exact hsuspended.polls condition left hpoll

structure Poised (m : Machine R) : Prop where
  parked : m.Parked
  inPlace : m.WaitsInPlace
  inVain : m.AwaitsInVain

namespace Poised

theorem handle [Tuning.Valid R] {p : Program R} (h : m.Poised) (hruns : m.Runs p)
    (event : Event R) : (m.handle event).Poised where
  parked := h.parked.handle hruns event
  inPlace := hruns.waitsInPlace_handle h.inPlace event
  inVain := by
    cases event with
    | cancel => exact h.inVain
    | animate dt =>
      intro condition left hpoll
      have hwait : m.wait = .poll condition left := hpoll
      have hmotion : m.motion = none := by
        apply h.parked.motion_eq
        rw [hwait]
        nofun
      rw [animate_of_motion hmotion]
      exact h.inVain condition left hwait
    | advance around dt =>
      obtain ⟨states, hadvances, -⟩ := hruns.exists_advances around dt
      exact hadvances.awaitsInVain h.parked h.inVain

theorem after [Tuning.Valid R] {p : Program R} (h : m.Poised) (hruns : m.Runs p)
    (events : List (Event R)) : (m.after events).Poised := by
  induction events generalizing m with
  | nil => exact h
  | cons event events ih => exact ih (h.handle hruns event) (hruns.handle event)

end Poised

theorem poised_launch (script : Script R) (robot : Robot R) : (launch script robot).Poised where
  parked := parked_of_motion rfl
  inPlace := Interpreter.waitsInPlace_of_nothing rfl
  inVain := nofun

structure Stranded (m : Machine R) (condition : CondId) (frames : List Frame) (robot : Robot R) :
    Prop where
  frames_eq : m.frames = frames
  robot_eq : m.robot = robot
  isDone : m.isDone = false
  motion_eq : m.motion = none
  wait_eq : ∃ left, m.wait = .poll condition left
  test_eq : ∀ around, m.test around condition "waitUntil" = .ok false

theorem Poised.stranded {condition : CondId} {left : R} (h : m.Poised)
    (hwait : m.wait = .poll condition left)
    (hclock : (m.script.condition condition).readsClock = false) :
    m.Stranded condition m.frames m.robot where
  frames_eq := rfl
  robot_eq := rfl
  isDone := by
    obtain ⟨frame, below, position, hframes, -⟩ := h.inPlace condition left hwait
    unfold isDone
    rw [hframes]
    rfl
  motion_eq := by
    apply h.parked.motion_eq
    rw [hwait]
    nofun
  wait_eq := ⟨left, hwait⟩
  test_eq := h.inVain condition left hwait hclock

namespace Stranded

variable {condition : CondId} {frames : List Frame} {robot : Robot R}

theorem exists_serve (h : m.Stranded condition frames robot) (around : Surroundings R) (dt : R) :
    ∃ left, m.serve around dt = .ok (some (.poll condition left)) := by
  obtain ⟨left, hwait⟩ := h.wait_eq
  unfold serve
  rw [hwait]
  dsimp only
  rw [h.test_eq around]
  split
  . exact ⟨_, rfl⟩
  . exact ⟨_, rfl⟩

theorem advance (h : m.Stranded condition frames robot) (around : Surroundings R) (dt : R) :
    ∃ left, m.advance around dt =
        ({ m with console := #[], wait := .poll condition left },
          .ok (if m.cancelled then .cancelled else .pending)) ∧
      m.Advances around dt [] { m with console := #[], wait := .poll condition left }
        (.ok (if m.cancelled then .cancelled else .pending)) := by
  cases hcancelled : m.cancelled with
  | true =>
    obtain ⟨left, hwait⟩ := h.wait_eq
    have hsame : { m with console := #[], wait := .poll condition left } =
        { m with console := #[] } := by
      rw [← hwait]
    refine ⟨left, ?_⟩
    rw [hsame, if_pos rfl]
    exact ⟨advance_of_cancelled hcancelled around dt, .cancelled hcancelled⟩
  | false =>
    have hsilent : Stranded { m with console := #[] } condition frames robot :=
      ⟨h.frames_eq, h.robot_eq, h.isDone, h.motion_eq, h.wait_eq, h.test_eq⟩
    obtain ⟨left, hserve⟩ := hsilent.exists_serve around dt
    have hdone : { m with console := #[] }.isDone = false := h.isDone
    refine ⟨left, ?_, .waits hcancelled h.isDone hserve⟩
    unfold Machine.advance
    dsimp only
    rw [hcancelled, hdone, hserve]
    rfl

theorem handle (h : m.Stranded condition frames robot) (event : Event R) :
    (m.handle event).Stranded condition frames robot := by
  cases event with
  | cancel => exact ⟨h.frames_eq, h.robot_eq, h.isDone, h.motion_eq, h.wait_eq, h.test_eq⟩
  | animate dt =>
    rw [animate_of_motion h.motion_eq]
    exact h
  | advance around dt =>
    obtain ⟨left, hadvance, -⟩ := h.advance around dt
    unfold Machine.handle
    dsimp only
    rw [hadvance]
    exact ⟨h.frames_eq, h.robot_eq, h.isDone, h.motion_eq, ⟨left, rfl⟩, h.test_eq⟩

theorem after (h : m.Stranded condition frames robot) (events : List (Event R)) :
    (m.after events).Stranded condition frames robot := by
  induction events generalizing m with
  | nil => exact h
  | cons event events ih => exact ih (h.handle event)

end Stranded

theorem Poised.stays [Tuning.Valid R] {condition : CondId} {left : R} (h : m.Poised)
    (hwait : m.wait = .poll condition left)
    (hclock : (m.script.condition condition).readsClock = false) (later : List (Event R)) :
    let m' := m.after later
    m'.frames = m.frames ∧ m'.robot = m.robot ∧
      ∀ around dt, ∃ ended,
        m'.advance around dt = (ended, .ok (if m'.cancelled then .cancelled else .pending)) ∧
        m'.Advances around dt [] ended (.ok (if m'.cancelled then .cancelled else .pending)) := by
  intro m'
  have hstranded : m'.Stranded condition m.frames m.robot := (h.stranded hwait hclock).after later
  refine ⟨hstranded.frames_eq, hstranded.robot_eq, ?_⟩
  intro around dt
  obtain ⟨left, hadvance⟩ := hstranded.advance around dt
  exact ⟨_, hadvance⟩

end Machine

end ReefRover
