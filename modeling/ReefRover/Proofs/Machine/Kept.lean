import ReefRover.Proofs.Machine.Path

/-!
This module contains what programs leave alone: whatever of a rig no block changes, and not the end
of the program either, no timestep of a program changes. Nor does a program change its own script.
-/

namespace ReefRover

variable {R : Type} [Scalar R]

def Deed.Leads (rig rig' : Rig R) : Deed R → Prop
  | .move target duration => rig.startMotion? target duration = some rig'
  | .place target => rig.startMotion? target Scalar.zero = some rig'
  | .dropMotion => rig' = { rig with motion := none }
  | .setRobot robot => rig' = { rig with robot }
  | .pause _ | .write _ => rig' = rig

theorem Machine.leads_take {m : Machine R} {op : String} {deed : Deed R} {outcome : Outcome R}
    (h : m.toRig.carryOut op deed = .ok outcome) :
    deed.Leads m.toRig (m.take outcome).2.toRig := by
  cases deed with
  | move target duration =>
    unfold Rig.carryOut at h
    dsimp only at h
    split at h
    . next hstart =>
      cases h
      exact hstart
    . cases h
  | place target =>
    unfold Rig.carryOut at h
    dsimp only at h
    split at h
    . next hstart =>
      cases h
      exact hstart
    . cases h
  | dropMotion | setRobot | pause | write =>
    cases h
    rfl

namespace Rig

theorem startMotion?_eq_some {rig rig' : Rig R} {target : MotionTarget R} {duration : R}
    (h : rig.startMotion? target duration = some rig') :
    rig' = rig ∨ (∃ motion, rig' = { rig with motion }) ∨
      ¬ Scalar.zero < duration ∧
        rig' = { rig with robot := rig.robot.place (target.resolve rig.robot.pose) } := by
  unfold startMotion? at h
  split at h
  . cases h
  . split at h
    . cases h
      exact .inl rfl
    . dsimp only at h
      split at h
      . cases h
        exact .inr (.inl ⟨_, rfl⟩)
      . next hduration =>
        cases h
        exact .inr (.inr ⟨hduration, rfl⟩)

/-- Whether something that can be told of a rig is the same after any deed of a block. -/
def Kept {α : Type} (f : Rig R → α) : Prop :=
  ∀ {rig rig' : Rig R} {around : Surroundings R} {action : Action R} {deed : Deed R},
    action.deed rig.robot around = .ok deed → deed.Leads rig rig' → f rig' = f rig

end Rig

namespace Rig.Kept

variable {α : Type} {f : Rig R → α}

theorem executes (hf : Kept f) {m m' : Machine R} {around : Surroundings R} {instr : Instr R}
    {flow : Flow} (h : m.Executes around instr flow m') : f m'.toRig = f m.toRig := by
  cases h with
  | acts hperform =>
    obtain ⟨deed, hdeed, hout⟩ := bind_eq_ok_iff.mp hperform
    exact hf hdeed (Machine.leads_take hout)
  | stops =>
    -- the end of a project does to the rig what the block that stops driving does
    have hdeed : Action.stopDriving.deed m.robot around = .ok .dropMotion := rfl
    exact hf hdeed rfl
  | passes | opens | waits | breaks => rfl

theorem step (hf : Kept f) (m : Machine R) (around : Surroundings R) :
    f (m.step around).machine.toRig = f m.toRig := by
  have htakes := Machine.takes_step m around
  generalize m.step around = step at htakes
  cases htakes with
  | executes hframes hcheck hinstr h =>
    have hexecutes := hf.executes h
    exact hexecutes
  | suspends hframes hcheck hinstr h =>
    have hexecutes := hf.executes h
    exact hexecutes
  | stops hframes hcheck hinstr h =>
    have hexecutes := hf.executes h
    exact hexecutes
  | done | passesTest | leavesAtTest | failsAtTest | leaves | turns | fails | breaksOut => rfl

theorem run (hf : Kept f) (around : Surroundings R) (budget : Nat) (m : Machine R) :
    f (m.run around budget).1.toRig = f m.toRig := by
  induction budget generalizing m with
  | zero => rfl
  | succ budget ih =>
    have hstep := hf.step m around
    unfold Machine.run
    split
    . next heq =>
      rw [heq] at hstep
      rw [ih]
      exact hstep
    . next heq =>
      rw [heq] at hstep
      exact hstep

theorem advance (hf : Kept f) (m : Machine R) (around : Surroundings R) (dt : R) :
    f (m.advance around dt).1.toRig = f m.toRig := by
  unfold Machine.advance
  dsimp only
  split
  . rfl
  . split
    . rfl
    . split
      . rfl
      . rfl
      . exact hf.run around _ _

end Rig.Kept

namespace Machine

theorem Executes.script_eq {m m' : Machine R} {around : Surroundings R} {instr : Instr R}
    {flow : Flow} (h : m.Executes around instr flow m') : m'.script = m.script := by
  cases h with
  | acts hperform =>
    next action outcome =>
      cases outcome with
      | goesOn | moves | sleeps => rfl
  | passes | opens | waits | breaks | stops => rfl

theorem script_step (m : Machine R) (around : Surroundings R) :
    (m.step around).machine.script = m.script := by
  have htakes := takes_step m around
  generalize m.step around = step at htakes
  cases htakes with
  | executes hframes hcheck hinstr h | suspends hframes hcheck hinstr h
  | stops hframes hcheck hinstr h => exact h.script_eq
  | done | passesTest | leavesAtTest | failsAtTest | leaves | turns | fails | breaksOut => rfl

theorem script_run (around : Surroundings R) (budget : Nat) (m : Machine R) :
    (run around budget m).1.script = m.script := by
  induction budget generalizing m with
  | zero => rfl
  | succ budget ih =>
    have hstep := m.script_step around
    unfold run
    split
    . next heq =>
      rw [heq] at hstep
      exact (ih _).trans hstep
    . next heq =>
      rw [heq] at hstep
      exact hstep

theorem script_advance (m : Machine R) (around : Surroundings R) (dt : R) :
    (m.advance around dt).1.script = m.script := by
  unfold advance
  dsimp only
  split
  . rfl
  . split
    . rfl
    . split
      . rfl
      . rfl
      . exact script_run around _ _

end Machine

end ReefRover
