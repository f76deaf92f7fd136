import ReefRover.Proofs.Walk.Basic

/-!
This module contains what a step of a walk can do: the executions of a block fall into six kinds,
and there are three ways for a block to fail.
-/

namespace ReefRover

variable {R : Type} [Scalar R]

inductive Op.Opens : Op R → Task R → Prop where
  | repeatTimes {times : Option R} {body : List (Op R)}
      (hcount : Scalar.count (times.getD Tuning.defaultRepeat) ≠ 0) :
    Opens (.repeatTimes times body)
      (.iteration body (.times (Scalar.count (times.getD Tuning.defaultRepeat))) body)
  | forever {body : List (Op R)} : Opens (.forever body) (.iteration body .forever body)
  | repeatUntil {condition : Expr R} {body : List (Op R)} :
    Opens (.repeatUntil condition body) (.test (.untilTrue condition) body)
  | whileDo {condition : Expr R} {body : List (Op R)} :
    Opens (.whileDo condition body) (.test (.whileTrue condition) body)
  | branch {op : Op R} {body : List (Op R)} (hloop : op.isLoop = false) (hbody : body ∈ op.bodies) :
    Opens op (.block body)

inductive Walker.Executes (w : Walker R) (around : Surroundings R) :
    Op R → Flow → Walker R → Prop where
  | acts {action : Action R} {outcome : Outcome R}
      (h : w.toRig.perform around action = .ok outcome) :
    Executes w around (.action action) (w.take outcome).1 (w.take outcome).2
  | passes {op : Op R} : Executes w around op .next w
  | opens {op : Op R} {task : Task R} (h : op.Opens task) :
    Executes w around op .next { w with tasks := task :: w.tasks }
  | waits {condition : Expr R} (h : w.test around condition "waitUntil" = .ok false) :
    Executes w around (.waitUntil condition) .suspend
      { w with pause := .poll condition Tuning.pollInterval }
  | breaks {rest : List (Task R)} (h : outsideLoop? w.tasks = some rest) :
    Executes w around .breakLoop .next { w with tasks := rest }
  | stops : Executes w around .stopProject .stop
      { w with
        motion := none
        tasks := []
        console := w.console.push "stop project" }

inductive Walker.Fails (w : Walker R) (around : Surroundings R) :
    Op R → ExecutionError R → Prop where
  | action {action : Action R} {e : ExecutionError R}
      (h : w.toRig.perform around action = .error e) :
    Fails w around (.action action) e
  | times {times : Option R} {body : List (Op R)}
      (h : Scalar.isFinite (times.getD Tuning.defaultRepeat) = false) :
    Fails w around (.repeatTimes times body)
      (.nonFinite "repeatTimes" "times" (times.getD Tuning.defaultRepeat))
  | condition {op : Op R} {condition : Expr R} {source : EvalError}
      (hmem : condition ∈ op.conditions)
      (h : condition.test (w.robot.readings around.clock) = .error source) :
    Fails w around op (.condition op.name source)
  | breakLoop (h : outsideLoop? w.tasks = none) : Fails w around .breakLoop .breakOutsideLoop

namespace Walker

theorem executes_of_exec {w w' : Walker R} {around : Surroundings R} {op : Op R} {flow : Flow}
    (h : w.exec around op = .ok (flow, w')) : Executes w around op flow w' := by
  cases op
  case action action =>
    rw [exec] at h
    cases hperform : w.toRig.perform around action with
    | error e =>
      rw [hperform] at h
      cases h
    | ok outcome =>
      rw [hperform] at h
      have htake : w.take outcome = (flow, w') := Except.ok.inj h
      have hacts : Executes w around (.action action) (w.take outcome).1 (w.take outcome).2 :=
        .acts hperform
      rw [htake] at hacts
      exact hacts
  case waitUntil condition =>
    rw [exec] at h
    obtain ⟨holds, htest, h⟩ := bind_eq_ok_iff.mp h
    cases holds with
    | true =>
      cases h
      exact .passes
    | false =>
      cases h
      exact .waits htest
  case repeatTimes times body =>
    rw [exec] at h
    obtain ⟨v, hfinite, h⟩ := bind_eq_ok_iff.mp h
    obtain ⟨-, rfl⟩ := finite_eq_ok_iff.mp hfinite
    dsimp only at h
    split at h
    . cases h
      exact .passes
    . next hcount =>
      cases h
      exact .opens (.repeatTimes hcount)
  case forever body =>
    cases h
    exact .opens .forever
  case repeatUntil condition body =>
    cases h
    exact .opens .repeatUntil
  case whileDo condition body =>
    cases h
    exact .opens .whileDo
  case ifThen condition yes =>
    rw [exec] at h
    obtain ⟨holds, htest, h⟩ := bind_eq_ok_iff.mp h
    cases holds with
    | true =>
      cases h
      exact .opens (.branch rfl (by simp [Op.bodies]))
    | false =>
      cases h
      exact .passes
  case ifThenElse condition yes otherwise =>
    rw [exec] at h
    obtain ⟨holds, htest, h⟩ := bind_eq_ok_iff.mp h
    cases holds with
    | true =>
      cases h
      exact .opens (.branch rfl (by simp [Op.bodies]))
    | false =>
      cases h
      exact .opens (.branch rfl (by simp [Op.bodies]))
  case ifElseIfElse condition yes elseIfCondition elseIf otherwise =>
    rw [exec] at h
    obtain ⟨first, htest, h⟩ := bind_eq_ok_iff.mp h
    cases first with
    | true =>
      cases h
      exact .opens (.branch rfl (by simp [Op.bodies]))
    | false =>
      obtain ⟨second, htest, h⟩ := bind_eq_ok_iff.mp h
      cases second with
      | true =>
        cases h
        exact .opens (.branch rfl (by simp [Op.bodies]))
      | false =>
        cases h
        exact .opens (.branch rfl (by simp [Op.bodies]))
  case breakLoop =>
    rw [exec] at h
    cases houtside : outsideLoop? w.tasks with
    | none =>
      rw [houtside] at h
      cases h
    | some rest =>
      rw [houtside] at h
      cases h
      exact .breaks houtside
  case stopProject =>
    cases h
    exact .stops

theorem test_eq_error_iff {w : Walker R} {around : Surroundings R} {condition : Expr R}
    {op : String} {e : ExecutionError R} :
    w.test around condition op = .error e ↔
      ∃ source, condition.test (w.robot.readings around.clock) = .error source ∧
        e = .condition op source := by
  unfold test
  cases condition.test (w.robot.readings around.clock) with
  | error source => simp [Except.mapError, eq_comm]
  | ok b => simp [Except.mapError]

theorem fails_of_bind_test {w : Walker R} {around : Surroundings R} {op : Op R}
    {condition : Expr R} {f : Bool → Except (ExecutionError R) (Flow × Walker R)}
    {e : ExecutionError R} (hmem : condition ∈ op.conditions)
    (hf : ∀ holds, f holds = .error e → Fails w around op e)
    (h : (w.test around condition op.name >>= f) = .error e) : Fails w around op e := by
  rcases bind_eq_error_iff.mp h with h | ⟨holds, -, h⟩
  . obtain ⟨source, hsource, rfl⟩ := test_eq_error_iff.mp h
    exact .condition hmem hsource
  . exact hf holds h

theorem fails_of_exec {w : Walker R} {around : Surroundings R} {op : Op R} {e : ExecutionError R}
    (h : w.exec around op = .error e) : Fails w around op e := by
  cases op
  case action action =>
    rw [exec] at h
    cases hperform : w.toRig.perform around action with
    | error e =>
      rw [hperform] at h
      cases h
      exact .action hperform
    | ok outcome =>
      rw [hperform] at h
      cases h
  case repeatTimes times body =>
    rw [exec] at h
    rcases bind_eq_error_iff.mp h with h | ⟨v, hfinite, h⟩
    . obtain ⟨hfinite, rfl⟩ := finite_eq_error_iff.mp h
      exact .times hfinite
    . dsimp only at h
      split at h
      . cases h
      . cases h
  case breakLoop =>
    rw [exec] at h
    cases houtside : outsideLoop? w.tasks with
    | none =>
      rw [houtside] at h
      cases h
      exact .breakLoop houtside
    | some rest =>
      rw [houtside] at h
      cases h
  case forever => cases h
  case repeatUntil => cases h
  case whileDo => cases h
  case stopProject => cases h
  case ifElseIfElse condition yes elseIfCondition elseIf otherwise =>
    rw [exec] at h
    apply fails_of_bind_test (by simp [Op.conditions]) _ h
    intro first h
    cases first with
    | true => cases h
    | false =>
      apply fails_of_bind_test (by simp [Op.conditions]) _ h
      intro second h
      cases second <;> cases h
  -- the other blocks test one condition, after which nothing can fail
  all_goals
    rw [exec] at h
    apply fails_of_bind_test (by simp [Op.conditions]) _ h
    intro holds h
    cases holds <;> cases h

end Walker

end ReefRover
