import ReefRover.Proofs.Machine.Kept
import ReefRover.Proofs.Program.Typing

/-!
This module contains what decides whether a condition can be tested. It is the types in the
expression alone: neither the robot nor the clock has a part in it, so a condition that could be
tested once can be tested for as long as the program runs.
-/

namespace ReefRover

variable {R : Type} [Scalar R]

namespace Expr

variable {e : Expr R} {readings : Readings R}

theorem eval_eq_error_iff {source : EvalError} :
    e.eval readings = .error source ↔ e.type? = .error source := by
  rw [← type_eval e readings]
  cases e.eval readings <;> simp [Except.map]

theorem exists_eval_eq_ok_iff {type : ValueType} :
    (∃ value, e.eval readings = .ok value ∧ value.type = type) ↔ e.type? = .ok type := by
  rw [← type_eval e readings]
  cases e.eval readings <;> simp [Except.map]

theorem fault?_eq_none_iff : e.fault? = none ↔ e.type? = .ok .boolean := by
  unfold fault?
  cases e.type? with
  | error source => simp [bind, Except.bind]
  | ok type => cases type <;> simp [bind, Except.bind, ValueType.truth]

theorem exists_test_eq_error_iff :
    (∃ source, e.test readings = .error source) ↔ e.type? ≠ .ok .boolean := by
  simp only [test_eq_error_iff]
  rw [← Option.isSome_iff_exists, Option.isSome_iff_ne_none, ne_eq, fault?_eq_none_iff]

theorem exists_test_eq_ok_iff :
    (∃ holds, e.test readings = .ok holds) ↔ e.type? = .ok .boolean := by
  have herror : (∃ source, e.test readings = .error source) ↔ e.type? ≠ .ok .boolean :=
    exists_test_eq_error_iff
  rw [← not_iff_not, ← ne_eq, ← herror]
  cases e.test readings <;> simp

structure Typed (e : Expr R) : Prop where
  eval_eq_error_iff : ∀ readings source,
    e.eval readings = .error source ↔ e.type? = .error source
  eval_eq_ok_iff : ∀ readings type,
    (∃ value, e.eval readings = .ok value ∧ value.type = type) ↔ e.type? = .ok type
  test_fails_iff : ∀ readings,
    (∃ source, e.test readings = .error source) ↔ e.type? ≠ .ok .boolean
  test_fails_alike : ∀ readings readings' source,
    e.test readings = .error source → e.test readings' = .error source

theorem typed (e : Expr R) : e.Typed where
  eval_eq_error_iff := fun _ _ => Expr.eval_eq_error_iff
  eval_eq_ok_iff := fun _ _ => exists_eval_eq_ok_iff
  test_fails_iff := fun _ => exists_test_eq_error_iff
  test_fails_alike := fun _ _ _ h => test_eq_error_iff.mpr (test_eq_error_iff.mp h)

end Expr

namespace Machine

variable {m m' : Machine R}

theorem exists_test_eq_ok_iff {around : Surroundings R} {condition : CondId} {op : String} :
    (∃ holds, m.test around condition op = .ok holds) ↔
      (m.script.condition condition).type? = .ok .boolean := by
  have hok : (∃ holds, (m.script.condition condition).test (m.robot.readings around.clock) =
      .ok holds) ↔ (m.script.condition condition).type? = .ok .boolean :=
    Expr.exists_test_eq_ok_iff
  rw [← hok]
  unfold test
  cases (m.script.condition condition).test (m.robot.readings around.clock) <;>
    simp [Except.mapError]

theorem script_handle (m : Machine R) (event : Event R) : (m.handle event).script = m.script := by
  cases event with
  | cancel | animate => rfl
  | advance around dt => exact m.script_advance around dt

theorem script_after (m : Machine R) (events : List (Event R)) :
    (m.after events).script = m.script := by
  induction events generalizing m with
  | nil => rfl
  | cons event events ih => exact (ih _).trans (m.script_handle event)

/--
A condition that one machine can test, another can test as well, and so in its loops and when it
waits; and it fails alike for both.
-/
structure TestsAlike (m m' : Machine R) (condition : CondId) : Prop where
  succeeds : ∀ around around' op op', (∃ holds, m.test around condition op = .ok holds) →
    ∃ holds, m'.test around' condition op' = .ok holds
  fails : ∀ around around' op e, m.test around condition op = .error e →
    m'.test around' condition op = .error e
  keepsLooping : ∀ around around' op, (∃ holds, m.test around condition op = .ok holds) →
    ∀ kind ∈ [LoopKind.untilTrue condition, .whileTrue condition],
      ∃ goesOn, m'.keepsLooping around' (.loop kind) = .ok goesOn
  serves : ∀ around around' op dt left, (∃ holds, m.test around condition op = .ok holds) →
    m'.wait = .poll condition left → ∃ wait, m'.serve around' dt = .ok wait

theorem test_eq_error_of_script_eq (h : m'.script = m.script) {around around' : Surroundings R}
    {condition : CondId} {op : String} {e : ExecutionError R}
    (hfails : m.test around condition op = .error e) :
    m'.test around' condition op = .error e := by
  unfold test at hfails ⊢
  rw [h]
  cases htest : (m.script.condition condition).test (m.robot.readings around.clock) with
  | ok holds =>
    rw [htest] at hfails
    cases hfails
  | error source =>
    rw [(Expr.typed _).test_fails_alike _ (m'.robot.readings around'.clock) _ htest]
    rw [htest] at hfails
    exact hfails

theorem exists_keepsLooping_eq_ok {around : Surroundings R} {condition : CondId} {kind : LoopKind}
    (htype : (m.script.condition condition).type? = .ok .boolean)
    (hkind : kind ∈ [LoopKind.untilTrue condition, .whileTrue condition]) :
    ∃ goesOn, m.keepsLooping around (.loop kind) = .ok goesOn := by
  rw [List.mem_pair] at hkind
  rcases hkind with rfl | rfl
  . obtain ⟨holds, htest⟩ : ∃ holds, m.test around condition "repeatUntil" = .ok holds :=
      exists_test_eq_ok_iff.mpr htype
    unfold keepsLooping
    dsimp only
    rw [htest]
    exact ⟨!holds, rfl⟩
  . exact exists_test_eq_ok_iff.mpr htype

theorem exists_serve_eq_ok {around : Surroundings R} {condition : CondId} {dt left : R}
    (htype : (m.script.condition condition).type? = .ok .boolean)
    (hwait : m.wait = .poll condition left) : ∃ wait, m.serve around dt = .ok wait := by
  obtain ⟨holds, htest⟩ : ∃ holds, m.test around condition "waitUntil" = .ok holds :=
    exists_test_eq_ok_iff.mpr htype
  unfold serve
  rw [hwait]
  dsimp only
  rw [htest]
  split
  . exact ⟨_, rfl⟩
  . exact ⟨_, rfl⟩

theorem testsAlike_of_script_eq (h : m'.script = m.script) (condition : CondId) :
    m.TestsAlike m' condition := by
  have htype : ∀ around op, (∃ holds, m.test around condition op = .ok holds) →
      (m'.script.condition condition).type? = .ok .boolean := by
    intro around op htest
    rw [h]
    exact exists_test_eq_ok_iff.mp htest
  exact
    { succeeds := fun around _ op _ htest => exists_test_eq_ok_iff.mpr (htype around op htest)
      fails := fun _ _ _ _ => test_eq_error_of_script_eq h
      keepsLooping := fun around _ op htest _ => exists_keepsLooping_eq_ok (htype around op htest)
      serves := fun around _ op _ _ htest => exists_serve_eq_ok (htype around op htest) }

/--
Whether and how an expression fails is known from its type, and so a condition that could be tested
once never fails later, whatever happens meanwhile and on whatever rig the program goes on.
-/
theorem conditions_fail_by_type :
    (∀ e : Expr R, e.Typed) ∧
      ∀ (m : Machine R) (events : List (Event R)) (rig : Rig R) (condition : CondId),
        m.TestsAlike ((m.after events).withRig rig) condition :=
  ⟨Expr.typed, fun m events _ => testsAlike_of_script_eq (m.script_after events)⟩

end Machine

end ReefRover
