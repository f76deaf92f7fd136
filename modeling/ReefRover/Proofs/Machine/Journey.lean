import ReefRover.Proofs.Machine.Settle
import ReefRover.Scalar.Single

/-!
This module contains journeys: what a program does from its start until it ends or no more time is
given to it. The proof that a program which does not read the clock goes on the same journey however
time is cut into timesteps stands at the end.
-/

namespace ReefRover

variable {R : Type}

structure Timestep (R : Type) where
  dt : R
  /-- What the clock says in this timestep. -/
  clock : R

structure Execution (R : Type) where
  slot : Slot
  instr : Instr R
  robot : Robot R

structure Journey (R : Type) where
  executed : List (Execution R)
  /-- The robot when the journey ended, or when no more time was given to it. -/
  robot : Robot R
  result : Except (ExecutionError R) Progress

namespace Journey

def isOver (journey : Journey R) : Prop :=
  journey.result ≠ .ok .pending

def after (journey : Journey R) (executed : List (Execution R)) : Journey R :=
  { journey with executed := executed ++ journey.executed }

/-- One journey is the beginning of the other, and there is only one that is over. -/
structure Agrees (journey journey' : Journey R) : Prop where
  executed_prefix :
    journey.executed <+: journey'.executed ∨ journey'.executed <+: journey.executed
  eq_of_isOver : journey.isOver → journey'.isOver → journey = journey'

theorem Agrees.after {journey journey' : Journey R} (h : journey.Agrees journey')
    (executed : List (Execution R)) :
    (journey.after executed).Agrees (journey'.after executed) where
  executed_prefix := by
    apply h.executed_prefix.imp
    . exact (List.prefix_append_right_inj executed).mpr
    . exact (List.prefix_append_right_inj executed).mpr
  eq_of_isOver := by
    intro hover hover'
    rw [h.eq_of_isOver hover hover']

end Journey

namespace Machine

def execution? (m : Machine R) : Option (Execution R) := do
  let slot ← m.slot?
  let instr ← m.script.instr? slot
  return { slot, instr, robot := m.robot }

variable [Scalar R]

/-- The journey of a machine to which some timesteps are given, at a layout factor. -/
inductive Plays (scale : R) : Machine R → List (Timestep R) → Journey R → Prop where
  | runsOut {m : Machine R} :
    Plays scale m [] { executed := [], robot := m.robot, result := .ok .pending }
  | goesOn {m m' : Machine R} {states : List (Machine R)} {t : Timestep R}
      {ticks : List (Timestep R)} {journey : Journey R}
      (htick : m.tick ⟨scale, t.clock⟩ t.dt = (m', .ok .pending))
      (hadvances : (m.handle (.animate t.dt)).Advances ⟨scale, t.clock⟩ t.dt states m'
        (.ok .pending))
      (hrest : Plays scale m' ticks journey) :
    Plays scale m (t :: ticks) (journey.after (states.filterMap execution?))
  | ends {m m' : Machine R} {states : List (Machine R)} {t : Timestep R}
      {ticks : List (Timestep R)} {result : Except (ExecutionError R) Progress}
      (htick : m.tick ⟨scale, t.clock⟩ t.dt = (m', result))
      (hadvances : (m.handle (.animate t.dt)).Advances ⟨scale, t.clock⟩ t.dt states m' result)
      (hresult : result ≠ .ok .pending) :
    Plays scale m (t :: ticks)
      { executed := states.filterMap execution?, robot := m'.robot, result }

theorem Runs.tick {m : Machine R} {p : Program R} (h : m.Runs p) (around : Surroundings R)
    (dt : R) : (m.tick around dt).1.Runs p :=
  (h.handle (.animate dt)).handle (.advance around dt)

theorem Runs.exists_plays {m : Machine R} {p : Program R} (h : m.Runs p) (scale : R)
    (ticks : List (Timestep R)) : ∃ journey, m.Plays scale ticks journey := by
  induction ticks generalizing m with
  | nil => exact ⟨_, .runsOut⟩
  | cons t ticks ih =>
    obtain ⟨states, hadvances, -⟩ :=
      (h.handle (.animate t.dt)).exists_advances ⟨scale, t.clock⟩ t.dt
    have hruns := h.tick ⟨scale, t.clock⟩ t.dt
    rcases htick : m.tick ⟨scale, t.clock⟩ t.dt with ⟨m', result⟩
    have hadvance : (m.handle (.animate t.dt)).advance ⟨scale, t.clock⟩ t.dt = (m', result) :=
      htick
    rw [hadvance] at hadvances
    rw [htick] at hruns
    by_cases hresult : result = .ok .pending
    . subst hresult
      obtain ⟨journey, hjourney⟩ := ih hruns
      exact ⟨_, .goesOn htick hadvances hjourney⟩
    . exact ⟨_, .ends htick hadvances hresult⟩

structure Underway (m : Machine R) (p : Program R) (scale : R) : Prop where
  runs : m.Runs p
  cancelled : m.cancelled = false
  suspended : ∀ clock, m.Suspended ⟨scale, clock⟩

theorem underway_launch (p : Program R) (robot : Robot R) (scale : R) :
    (launch (Script.ofProgram p) robot).Underway p scale where
  runs := runs_launch p robot
  cancelled := rfl
  suspended _ := ⟨rfl, .inl rfl, nofun⟩

variable {m m' : Machine R} {p : Program R} {scale : R}

namespace Underway

theorem script_timeless (h : m.Underway p scale) (hp : p.Timeless) : m.script.Timeless := by
  rw [h.runs.script_eq]
  exact hp.script

theorem tick (h : m.Underway p scale) (hp : p.Timeless) {clock dt : R}
    {result : Except (ExecutionError R) Progress} (htick : m.tick ⟨scale, clock⟩ dt = (m', result))
    (hm' : m'.Suspended ⟨scale, clock⟩) : m'.Underway p scale := by
  have hruns := h.runs.tick ⟨scale, clock⟩ dt
  have hcancelled : (m.tick ⟨scale, clock⟩ dt).1.cancelled = m.cancelled :=
    (cancelled_advance _ _ _).trans (m.toRig.cancelled_step dt)
  rw [htick] at hruns hcancelled
  refine ⟨hruns, hcancelled.trans h.cancelled, ?_⟩
  apply hm'.of_timeless
  rw [hruns.script_eq]
  exact hp.script

end Underway

inductive Opens (m : Machine R) (p : Program R) (scale : R) (ticks : List (Timestep R)) :
    Journey R → Prop where
  | waits {robot : Robot R} :
    Opens m p scale ticks { executed := [], robot, result := .ok .pending }
  | goesOn {clock : R} {states : List (Machine R)} {m' : Machine R} {rest : List (Timestep R)}
      {journey : Journey R} (hcourse : Course ⟨scale, clock⟩ m.settled states m' (.ok .pending))
      (hm' : m'.Underway p scale) (hlength : rest.length < ticks.length)
      (hrest : m'.Plays scale rest journey) :
    Opens m p scale ticks (journey.after (states.filterMap execution?))
  | ends {clock : R} {states : List (Machine R)} {m' : Machine R}
      {result : Except (ExecutionError R) Progress}
      (hcourse : Course ⟨scale, clock⟩ m.settled states m' result)
      (hresult : result ≠ .ok .pending) :
    Opens m p scale ticks
      { executed := states.filterMap execution?, robot := m'.robot, result }

theorem Opens.cons {ticks : List (Timestep R)} {journey : Journey R}
    (h : m.Opens p scale ticks journey) (t : Timestep R) :
    m.Opens p scale (t :: ticks) journey := by
  cases h with
  | waits => exact .waits
  | goesOn hcourse hm' hlength hrest => exact .goesOn hcourse hm' (Nat.lt_succ_of_lt hlength) hrest
  | ends hcourse hresult => exact .ends hcourse hresult

theorem Opens.of_settled {ticks : List (Timestep R)} {journey : Journey R}
    (h : m'.Opens p scale ticks journey) (hsettled : m'.settled = m.settled) :
    m.Opens p scale ticks journey := by
  cases h with
  | waits => exact .waits
  | goesOn hcourse hm' hlength hrest =>
    rw [hsettled] at hcourse
    exact .goesOn hcourse hm' hlength hrest
  | ends hcourse hresult =>
    rw [hsettled] at hcourse
    exact .ends hcourse hresult

theorem Plays.opens [Tuning.Valid R] {ticks : List (Timestep R)} {journey : Journey R}
    (h : m.Plays scale ticks journey) (hp : p.Timeless) (hm : m.Underway p scale) :
    m.Opens p scale ticks journey := by
  induction h with
  | runsOut => exact .waits
  | @goesOn m m' states t ticks journey htick hadvances hrest ih =>
    have hanimated := (hm.suspended t.clock).animate t.dt
    have hcancelled : (m.handle (.animate t.dt)).cancelled = false :=
      (m.toRig.cancelled_step t.dt).trans hm.cancelled
    have hsettled := settled_animate hm.cancelled t.dt
    rcases hadvances.passes_or_goesOn hcancelled hanimated with ⟨rfl, -, hm', heq⟩ | hcourse
    . exact ((ih (hm.tick hp htick hm')).of_settled (heq.trans hsettled)).cons t
    . rw [hsettled] at hcourse
      have hm' := hm.tick hp htick (hcourse.suspended m.active_settled)
      exact .goesOn hcourse hm' (Nat.lt_succ_self _) hrest
  | @ends m m' states t ticks result htick hadvances hresult =>
    have hanimated := (hm.suspended t.clock).animate t.dt
    have hcancelled : (m.handle (.animate t.dt)).cancelled = false :=
      (m.toRig.cancelled_step t.dt).trans hm.cancelled
    rcases hadvances.passes_or_goesOn hcancelled hanimated with ⟨-, hpending, -⟩ | hcourse
    . exact absurd hpending hresult
    . rw [settled_animate hm.cancelled t.dt] at hcourse
      exact .ends hcourse hresult

theorem Course.unique_of_timeless {clock clock' : R} {m₁ m₂ : Machine R}
    {states₁ states₂ : List (Machine R)} {result₁ result₂ : Except (ExecutionError R) Progress}
    (h₁ : Course ⟨scale, clock⟩ m.settled states₁ m₁ result₁)
    (h₂ : Course ⟨scale, clock'⟩ m.settled states₂ m₂ result₂) (hp : p.Timeless)
    (hm : m.Underway p scale) : states₁ = states₂ ∧ m₁ = m₂ ∧ result₁ = result₂ :=
  h₁.unique (h₂.of_timeless (hm.script_timeless hp) hm.runs.onPath)

theorem Plays.agrees [Tuning.Valid R] {m m' : Machine R} {ticks ticks' : List (Timestep R)}
    {journey journey' : Journey R} (h : m.Plays scale ticks journey)
    (h' : m'.Plays scale ticks' journey') (hp : p.Timeless) (hm : m.Underway p scale)
    (hm' : m'.Underway p scale) (hsettled : m.settled = m'.settled) :
    journey.Agrees journey' := by
  have hopens := h.opens hp hm
  have hopens' := (h'.opens hp hm').of_settled hsettled.symm
  cases hopens with
  | waits => exact ⟨.inl (List.nil_prefix), fun hover => absurd rfl hover⟩
  | goesOn hcourse hnext hlength hrest =>
    cases hopens' with
    | waits => exact ⟨.inr (List.nil_prefix), fun _ hover => absurd rfl hover⟩
    | goesOn hcourse' hnext' hlength' hrest' =>
      obtain ⟨rfl, rfl, -⟩ := hcourse.unique_of_timeless hcourse' hp hm
      exact (hrest.agrees hrest' hp hnext hnext' rfl).after _
    | ends hcourse' hresult =>
      obtain ⟨-, -, rfl⟩ := hcourse.unique_of_timeless hcourse' hp hm
      exact absurd rfl hresult
  | ends hcourse hresult =>
    cases hopens' with
    | waits => exact ⟨.inr (List.nil_prefix), fun _ hover => absurd rfl hover⟩
    | goesOn hcourse' hnext' hlength' hrest' =>
      obtain ⟨-, -, rfl⟩ := hcourse.unique_of_timeless hcourse' hp hm
      exact absurd rfl hresult
    | ends hcourse' hresult' =>
      obtain ⟨rfl, rfl, rfl⟩ := hcourse.unique_of_timeless hcourse' hp hm
      exact ⟨.inl (List.prefix_refl _), fun _ _ => rfl⟩
termination_by ticks.length

/--
However time is cut into timesteps, and whatever the clock says, a program that does not read it
executes the same instructions with the same robot, and comes to the same end.
-/
theorem journey_of_timeless (p : Program Float32) (hp : p.Timeless) (robot : Robot Float32)
    (scale : Float32) :
    let m := launch (Script.ofProgram p) robot
    (∀ ticks, ∃ journey, m.Plays scale ticks journey) ∧
      ∀ ticks ticks' journey journey', m.Plays scale ticks journey →
        m.Plays scale ticks' journey' →
        (journey.executed <+: journey'.executed ∨ journey'.executed <+: journey.executed) ∧
          (journey.isOver → journey'.isOver →
            journey.result = journey'.result ∧ journey.robot = journey'.robot) := by
  intro m
  have hm := underway_launch p robot scale
  refine ⟨hm.runs.exists_plays scale, ?_⟩
  intro ticks ticks' journey journey' h h'
  have hagrees := h.agrees h' hp hm hm rfl
  refine ⟨hagrees.executed_prefix, ?_⟩
  intro hover hover'
  rw [hagrees.eq_of_isOver hover hover']
  exact ⟨rfl, rfl⟩

theorem journey_of_two_turns :
    let p : Program Float32 :=
      [.repeatTimes (some 2) [.action (.turn .right none)],
        .waitUntil (.compare .gt (.sensor .driveRotation) (.number 90))]
    let m := launch (Script.ofProgram p) (.atRest ⟨200, 200⟩)
    p.Timeless ∧ ∃ journey journey', m.Plays 1 [⟨1, 1⟩, ⟨1, 2⟩, ⟨1, 3⟩, ⟨0, 3⟩] journey ∧
      m.Plays 1 [⟨2, 7⟩, ⟨-1, 0⟩] journey' ∧
      (journey.executed <+: journey'.executed ∨ journey'.executed <+: journey.executed) := by
  intro p m
  have hp : p.Timeless := by
    simp [p, Program.Timeless, Program.blocks_eq, Op.bodies, Op.conditions, Expr.readsClock]
  obtain ⟨hexists, hagrees⟩ := journey_of_timeless p hp (.atRest ⟨200, 200⟩) 1
  obtain ⟨journey, h⟩ := hexists [⟨1, 1⟩, ⟨1, 2⟩, ⟨1, 3⟩, ⟨0, 3⟩]
  obtain ⟨journey', h'⟩ := hexists [⟨2, 7⟩, ⟨-1, 0⟩]
  exact ⟨hp, journey, journey', h, h', (hagrees _ _ journey journey' h h').1⟩

end Machine

end ReefRover
