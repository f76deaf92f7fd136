import ReefRover.Proofs.Machine.Still
import ReefRover.Scalar.Single

/-!
This module contains the proof that the robot is at rest whenever its program acts. Between two
timesteps a motion is under way only where the program waits for its end, whatever the host does in
between, so a timestep that gets to the program finds the robot at rest and leaves it so up to the
step that ends it.
-/

namespace ReefRover

variable {R : Type}

namespace Machine

/-- A machine between two timesteps: a motion under way is one that the program waits for. -/
structure Parked (m : Machine R) : Prop where
  still : m.motion = none ∨ m.wait = .motion ∧ m.isDone = false

structure AtRest [Scalar R] (m : Machine R) : Prop where
  isMoving : m.toRig.isMoving = false
  starts : ∀ target duration, (m.toRig.startMotion? target duration).isSome = true
  drops : m.toRig.dropMotion.1 = false

variable {m m' : Machine R} {around : Surroundings R} {dt : R}
  {result : Except (ExecutionError R) Progress}

theorem isMoving_of_motion (h : m.motion = none) : m.toRig.isMoving = false := by
  unfold Rig.isMoving
  rw [h]
  rfl

theorem parked_of_motion (h : m.motion = none) : m.Parked :=
  ⟨.inl h⟩

theorem Parked.wait_eq (h : m.Parked) (hmoving : m.toRig.isMoving = true) : m.wait = .motion := by
  rcases h.still with hmotion | ⟨hwait, -⟩
  . rw [isMoving_of_motion hmotion] at hmoving
    cases hmoving
  . exact hwait

theorem Parked.motion_eq (h : m.Parked) (hwait : m.wait ≠ .motion) : m.motion = none :=
  h.still.resolve_right fun hmoving => hwait hmoving.1

structure Ends (m' : Machine R) (result : Except (ExecutionError R) Progress) : Prop where
  parked : m'.Parked
  motion_of_finished : result = .ok .finished → m'.motion = none
  not_refused : ∀ op, result ≠ .error (.motionInFlight op)

theorem ends_of_motion (h : m'.motion = none)
    (hresult : ∀ op, result ≠ .error (.motionInFlight op)) : m'.Ends result :=
  ⟨parked_of_motion h, fun _ => h, hresult⟩

variable [Scalar R]

theorem atRest_of_motion (h : m.motion = none) : m.AtRest where
  isMoving := isMoving_of_motion h
  starts := by
    intro target duration
    exact Option.isSome_iff_ne_none.mpr (Rig.startMotion?_ne_none h)
  drops := isMoving_of_motion h

/-! ### Steps -/

theorem test_ne_refused (m : Machine R) (around : Surroundings R) (condition : CondId)
    (name op : String) : m.test around condition name ≠ .error (.motionInFlight op) := by
  unfold test
  cases (m.script.condition condition).test (m.robot.readings around.clock) with
  | ok holds => nofun
  | error source => nofun

theorem keepsLooping_ne_refused (m : Machine R) (kind : FrameKind) (op : String) :
    m.keepsLooping around kind ≠ .error (.motionInFlight op) := by
  unfold keepsLooping
  split
  . next condition =>
    have htest := m.test_ne_refused around condition "repeatUntil" op
    intro h
    cases hresult : m.test around condition "repeatUntil" with
    | ok holds =>
      rw [hresult] at h
      cases h
    | error e =>
      rw [hresult] at h htest
      cases h
      exact htest rfl
  . exact m.test_ne_refused _ _ _ op
  . nofun
  . nofun
  . nofun

theorem exec_ne_refused [Tuning.Valid R] {instr : Instr R} (h : m.motion = none) (op : String) :
    m.exec around instr ≠ .error (.motionInFlight op) := by
  intro hexec
  -- a walk fails by its rig, its numbers, its conditions or a `break` only
  have hwalk := m.exec_walker around instr
  rw [hexec] at hwalk
  have hfails := Walker.fails_of_exec hwalk
  generalize instr.op m.script = block at hfails
  cases hfails with
  | action hperform =>
    obtain ⟨field, v, -, -, heq⟩ := Rig.perform_eq_error h hperform
    cases heq

theorem Executes.ends {instr : Instr R} {flow : Flow} {progress : Progress}
    (h : m.Executes around instr flow m') (hactive : m.Active) (hdone : m.isDone = false)
    (hflow : flow ≠ .next) (hprogress : progress ≠ .finished) : m'.Ends (.ok progress) := by
  have hparked : m'.Parked := by
    cases h with
    | acts hperform =>
      next action outcome =>
        cases outcome with
        | goesOn rig line => exact absurd rfl hflow
        | moves rig => exact ⟨.inr ⟨rfl, hdone⟩⟩
        | sleeps seconds => exact parked_of_motion hactive.motion_eq
    | waits => exact parked_of_motion hactive.motion_eq
    | stops => exact parked_of_motion rfl
    | passes | opens | breaks => exact absurd rfl hflow
  refine ⟨hparked, ?_, nofun⟩
  intro hfinished
  cases hfinished
  exact absurd rfl hprogress

theorem ends_of_instr? [Tuning.Valid R] {frame : Frame} {below : List Frame} {instr : Instr R}
    (hactive : m.Active) (hframes : m.frames = frame :: below)
    (hcheck : frame.checkPending = false) (hinstr : m.script.instr? frame.slot = some instr)
    (hstep : m.step around = .halt m' result) : m'.Ends result := by
  let entered : Machine R := { m with frames := frame.movedOn :: below }
  have hentered : entered.Active := ⟨hactive.motion_eq, hactive.wait_eq⟩
  rw [step_of_instr? around hframes hcheck hinstr] at hstep
  split at hstep
  . cases hstep
  . next hexec =>
    cases hstep
    exact (executes_of_exec hexec).ends hentered rfl nofun nofun
  . next hexec =>
    cases hstep
    exact (executes_of_exec hexec).ends hentered rfl nofun nofun
  . cases hstep
    exact ends_of_motion hactive.motion_eq nofun
  . next hexec =>
    cases hstep
    refine ends_of_motion hentered.motion_eq ?_
    intro op heq
    cases heq
    exact exec_ne_refused hentered.motion_eq op hexec

theorem ends_of_step [Tuning.Valid R] (hactive : m.Active)
    (hstep : m.step around = .halt m' result) : m'.Ends result := by
  have htakes := takes_step m around
  rw [hstep] at htakes
  cases htakes with
  | done => exact ends_of_motion hactive.motion_eq nofun
  | failsAtTest hframes hcheck htest =>
    refine ends_of_motion (by exact hactive.motion_eq) ?_
    intro op heq
    cases heq
    exact keepsLooping_ne_refused _ _ op htest
  | turns => exact ends_of_motion hactive.motion_eq nofun
  | suspends hframes hcheck hinstr => exact ends_of_instr? hactive hframes hcheck hinstr hstep
  | stops hframes hcheck hinstr => exact ends_of_instr? hactive hframes hcheck hinstr hstep
  | fails hframes hcheck hinstr => exact ends_of_instr? hactive hframes hcheck hinstr hstep
  | breaksOut => exact ends_of_motion hactive.motion_eq nofun

/-! ### Timesteps -/

theorem Course.ends [Tuning.Valid R] {states : List (Machine R)}
    (h : Course around m states m' result) (hactive : m.Active) :
    (∀ t ∈ states, t.AtRest) ∧ m'.Ends result := by
  induction h with
  | @halts m m' result h =>
    refine ⟨?_, ends_of_step hactive h⟩
    intro t ht
    obtain rfl := List.mem_singleton.mp ht
    exact atRest_of_motion hactive.motion_eq
  | @goesOn m next m' states result h hrest ih =>
    obtain ⟨hstates, hends⟩ := ih (active_of_step hactive h)
    refine ⟨?_, hends⟩
    intro t ht
    rcases List.mem_cons.mp ht with rfl | ht
    . exact atRest_of_motion hactive.motion_eq
    . exact hstates t ht

namespace Parked

theorem motion_of_serve (h : m.Parked) (hserve : m.serve around dt = .ok none) :
    m.motion = none := by
  rcases h.still with hmotion | ⟨hwait, -⟩
  . exact hmotion
  . unfold serve at hserve
    rw [hwait] at hserve
    cases hmotion : m.motion with
    | none => rfl
    | some motion => simp [Rig.isMoving, hmotion] at hserve

theorem serve_ne_refused (m : Machine R) (op : String) :
    m.serve around dt ≠ .error (.motionInFlight op) := by
  unfold serve
  split
  . nofun
  . nofun
  . nofun
  . nofun
  . next condition left hpoll =>
    dsimp only
    split
    . nofun
    . intro h
      rcases bind_eq_error_iff.mp h with htest | ⟨holds, -, hresult⟩
      . exact m.test_ne_refused _ condition "waitUntil" op htest
      . cases hresult

theorem withWait (h : m.Parked) (hdone : m.isDone = false) {wait : Wait R}
    (hserve : m.serve around dt = .ok (some wait)) : Parked { m with wait } := by
  by_cases hwait : m.wait = .motion
  . unfold serve at hserve
    rw [hwait] at hserve
    dsimp only at hserve
    split at hserve
    . cases hserve
      exact ⟨.inr ⟨rfl, hdone⟩⟩
    . cases hserve
  . exact parked_of_motion (h.motion_eq hwait)

theorem advances [Tuning.Valid R] {states : List (Machine R)} (h : m.Parked)
    (hadvances : m.Advances around dt states m' result) :
    (∀ t ∈ states, t.AtRest) ∧ m'.Ends result := by
  have hsilent : Parked { m with console := #[] } := ⟨h.still⟩
  cases hadvances with
  | cancelled => exact ⟨nofun, hsilent, nofun, nofun⟩
  | finished _ hdone =>
    -- a program that has ended does not wait for anything
    have hmotion : m.motion = none := by
      apply h.still.resolve_right
      rintro ⟨-, hnot⟩
      rw [hdone] at hnot
      cases hnot
    exact ⟨nofun, ends_of_motion hmotion nofun⟩
  | fails _ _ hserve =>
    refine ⟨nofun, hsilent, nofun, ?_⟩
    intro op heq
    cases heq
    exact serve_ne_refused _ op hserve
  | waits _ hdone hserve => exact ⟨nofun, hsilent.withWait hdone hserve, nofun, nofun⟩
  | runs _ _ hserve hcourse => exact hcourse.ends ⟨hsilent.motion_of_serve hserve, rfl⟩

/-! ### Sessions -/

theorem handle [Tuning.Valid R] {p : Program R} (h : m.Parked) (hruns : m.Runs p)
    (event : Event R) : (m.handle event).Parked := by
  cases event with
  | cancel => exact ⟨h.still⟩
  | animate dt => exact ⟨h.still.imp_left Rig.motion_step⟩
  | advance around dt =>
    obtain ⟨states, hadvances, -⟩ := hruns.exists_advances around dt
    exact (h.advances hadvances).2.parked

theorem after [Tuning.Valid R] {p : Program R} (h : m.Parked) (hruns : m.Runs p)
    (events : List (Event R)) : (m.after events).Parked := by
  induction events generalizing m with
  | nil => exact h
  | cons event events ih => exact ih (h.handle hruns event) (hruns.handle event)

end Parked

/--
However the host cancels the run and lets time pass for the robot and for its program, the robot is
at rest at each step of the program and wherever a condition is looked at again, and it is so when
the program has ended.
-/
theorem acts_at_rest (p : Program Float32) (robot : Robot Float32)
    (events : List (Event Float32)) :
    let m := (launch (Script.ofProgram p) robot).after events
    (m.toRig.isMoving = true → m.wait = .motion) ∧
      (∀ condition left, m.wait = .poll condition left → m.AtRest) ∧
      ∀ around dt, ∃ states,
        m.Advances around dt states (m.advance around dt).1 (m.advance around dt).2 ∧
        (∀ t ∈ states, t.AtRest) ∧
        (∀ op, (m.advance around dt).2 ≠ .error (.motionInFlight op)) ∧
        ((m.advance around dt).2 = .ok .finished →
          (m.advance around dt).1.toRig.isMoving = false) := by
  intro m
  have hlaunched := runs_launch p robot
  have hparked : m.Parked := (parked_of_motion rfl).after hlaunched events
  refine ⟨hparked.wait_eq, ?_, ?_⟩
  . intro condition left hpoll
    apply atRest_of_motion
    apply hparked.motion_eq
    rw [hpoll]
    nofun
  . intro around dt
    obtain ⟨states, hadvances, -⟩ := (hlaunched.after events).exists_advances around dt
    obtain ⟨hstates, hends⟩ := hparked.advances hadvances
    refine ⟨states, hadvances, hstates, hends.not_refused, ?_⟩
    intro hfinished
    exact isMoving_of_motion (hends.motion_of_finished hfinished)

end Machine

end ReefRover
