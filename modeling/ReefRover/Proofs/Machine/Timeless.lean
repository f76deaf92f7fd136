import ReefRover.Proofs.Machine.Course
import ReefRover.Proofs.Program.Timeless

/-!
This module contains the proof that the steps of a machine do not depend on the clock where no
condition reads it, and that there is no choice in the course of a timestep.
-/

namespace ReefRover

variable {R : Type}

def Script.Timeless (s : Script R) : Prop :=
  ∀ id, (s.condition id).readsClock = false

theorem Program.Timeless.script {p : Program R} (h : p.Timeless) :
    (Script.ofProgram p).Timeless :=
  Script.condition_ofProgram (P := fun condition => condition.readsClock = false) rfl h

variable [Scalar R] {m : Machine R} {scale clock clock' : R}

theorem Action.deed_eq_of_scale (action : Action R) (robot : Robot R) :
    action.deed robot ⟨scale, clock⟩ = action.deed robot ⟨scale, clock'⟩ := by
  cases action <;> rfl

namespace Machine

theorem act_eq_of_scale (m : Machine R) (action : Action R) :
    m.act ⟨scale, clock⟩ action = m.act ⟨scale, clock'⟩ action := by
  rw [act_eq, act_eq]
  unfold Rig.perform
  rw [action.deed_eq_of_scale m.robot]

theorem test_eq_of_timeless (h : m.script.Timeless) (condition : CondId) (op : String) :
    m.test ⟨scale, clock⟩ condition op = m.test ⟨scale, clock'⟩ condition op := by
  unfold test
  rw [Expr.test_eq_of_timeless (h condition)]

theorem exec_eq_of_timeless (h : m.script.Timeless) (instr : Instr R) :
    m.exec ⟨scale, clock⟩ instr = m.exec ⟨scale, clock'⟩ instr := by
  cases instr with
  | action action => exact m.act_eq_of_scale action
  | waitUntil condition | ifThen condition | ifThenElse condition =>
    unfold exec
    dsimp only
    rw [test_eq_of_timeless h]
  | ifElseIfElse condition yes elseIfCondition =>
    unfold exec
    dsimp only
    rw [test_eq_of_timeless h condition, test_eq_of_timeless h elseIfCondition]
  | repeatTimes | forever | repeatUntil | whileDo | breakLoop | stopProject => rfl

theorem keepsLooping_eq_of_timeless (h : m.script.Timeless) (kind : FrameKind) :
    m.keepsLooping ⟨scale, clock⟩ kind = m.keepsLooping ⟨scale, clock'⟩ kind := by
  unfold keepsLooping
  split
  . rw [test_eq_of_timeless h]
  . rw [test_eq_of_timeless h]
  . rfl
  . rfl
  . rfl

theorem step_eq_of_timeless (h : m.script.Timeless) :
    m.step ⟨scale, clock⟩ = m.step ⟨scale, clock'⟩ := by
  have hframes : ∀ frames, { m with frames }.script.Timeless := fun _ => h
  unfold step
  split
  . rfl
  . split
    . dsimp only
      rw [keepsLooping_eq_of_timeless (hframes _)]
    . split
      . rfl
      . dsimp only
        rw [exec_eq_of_timeless (hframes _)]

namespace Course

variable {m' : Machine R} {states : List (Machine R)}
  {result : Except (ExecutionError R) Progress}

theorem of_timeless (h : Course ⟨scale, clock⟩ m states m' result) (htimeless : m.script.Timeless)
    (hpath : m.OnPath) : Course ⟨scale, clock'⟩ m states m' result := by
  induction h with
  | halts h =>
    rw [step_eq_of_timeless htimeless] at h
    exact .halts h
  | goesOn h hrest ih =>
    obtain ⟨hpath', hscript, -⟩ := moves_of_step_eq_next hpath h
    rw [step_eq_of_timeless htimeless] at h
    rw [← hscript] at htimeless
    exact .goesOn h (ih htimeless hpath')

theorem unique {around : Surroundings R} {m₁ m₂ : Machine R} {states₁ states₂ : List (Machine R)}
    {result₁ result₂ : Except (ExecutionError R) Progress}
    (h₁ : Course around m states₁ m₁ result₁) (h₂ : Course around m states₂ m₂ result₂) :
    states₁ = states₂ ∧ m₁ = m₂ ∧ result₁ = result₂ := by
  induction h₁ generalizing states₂ with
  | halts h =>
    cases h₂ with
    | halts h' =>
      rw [h] at h'
      cases h'
      exact ⟨rfl, rfl, rfl⟩
    | goesOn h' =>
      rw [h] at h'
      cases h'
  | goesOn h hrest ih =>
    cases h₂ with
    | halts h' =>
      rw [h] at h'
      cases h'
    | goesOn h' hrest' =>
      rw [h] at h'
      cases h'
      obtain ⟨rfl, rfl, rfl⟩ := ih hrest'
      exact ⟨rfl, rfl, rfl⟩

end Course

end Machine

end ReefRover
