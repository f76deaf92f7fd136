import ReefRover.Proofs.Machine.Kept
import ReefRover.Proofs.Machine.Parked

/-!
This module contains what programs uphold. A program acts on its rig only while the robot is at
rest, so what the blocks of a program uphold there, every timestep of the program upholds.
-/

namespace ReefRover

variable {R : Type}

def Script.Acts (s : Script R) (A : Action R → Prop) : Prop :=
  ∀ slot action, s.instr? slot = some (.action action) → A action

theorem Script.acts_ofProgram {p : Program R} {A : Action R → Prop}
    (h : ∀ action, .action action ∈ Program.blocks p → A action) : (ofProgram p).Acts A := by
  intro slot action hinstr
  have htree := tree_ofProgram p
  have hlt := lt_bodyCount_of_instr? hinstr
  obtain ⟨ops, hread⟩ := htree.exists_readBody? slot.body hlt
  have hbody : ops ∈ Program.bodies p := by
    have hmem : some ops ∈ (Program.bodies p).map some := by
      rw [← (readBody?_perm p).mem_iff, List.mem_map]
      exact ⟨slot.body.index, List.mem_range.mpr hlt, hread⟩
    obtain ⟨ops', hops, heq⟩ := List.mem_map.mp hmem
    cases heq
    exact hops
  have hdrop := drop_ops_of_instr? htree hinstr
  rw [Script.ops, hread, Option.getD_some] at hdrop
  have hop : Op.action action ∈ ops := by
    apply List.mem_of_mem_drop (i := slot.position)
    rw [hdrop]
    exact List.mem_cons_self
  exact h action (Program.mem_blocks hbody hop)

variable [Scalar R]

/-- What holds of a rig at rest holds of it after any deed of a block that satisfies `A`, too. -/
def Rig.Upheld (around : Surroundings R) (A : Action R → Prop) (P : Rig R → Prop) : Prop :=
  ∀ {rig rig' : Rig R} {action : Action R} {deed : Deed R}, A action → rig.motion = none → P rig →
    action.deed rig.robot around = .ok deed → deed.Leads rig rig' → P rig'

namespace Rig.Upheld

variable {around : Surroundings R} {A : Action R → Prop} {P : Rig R → Prop} {m m' : Machine R}
  {result : Except (ExecutionError R) Progress}

theorem executes (hP : Upheld around A P) {instr : Instr R} {flow : Flow}
    (h : m.Executes around instr flow m') (hacts : ∀ action, instr = .action action → A action)
    (hmotion : m.motion = none) (hm : P m.toRig) : P m'.toRig := by
  cases h with
  | acts hperform =>
    obtain ⟨deed, hdeed, hout⟩ := bind_eq_ok_iff.mp hperform
    exact hP (hacts _ rfl) hmotion hm hdeed (Machine.leads_take hout)
  | stops =>
    have hrig : { m.toRig with motion := none } = m.toRig := by
      rw [← hmotion]
    dsimp only
    rw [hrig]
    exact hm
  | passes | opens | waits | breaks => exact hm

theorem step (hP : Upheld around A P) (hacts : m.script.Acts A) (hmotion : m.motion = none)
    (hm : P m.toRig) : P (m.step around).machine.toRig := by
  have htakes := m.takes_step around
  have hinstr : ∀ {slot : Slot} {instr : Instr R}, m.script.instr? slot = some instr →
      ∀ action, instr = .action action → A action := by
    rintro slot instr hinstr action rfl
    exact hacts slot action hinstr
  generalize m.step around = step at htakes
  cases htakes with
  | executes hframes hcheck hget h | suspends hframes hcheck hget h
  | stops hframes hcheck hget h => exact hP.executes h (hinstr hget) hmotion hm
  | done | passesTest | leavesAtTest | failsAtTest | leaves | turns | fails | breaksOut => exact hm

theorem course [Tuning.Valid R] {states : List (Machine R)} (hP : Upheld around A P)
    (h : Machine.Course around m states m' result) (hacts : m.script.Acts A) (hactive : m.Active)
    (hm : P m.toRig) : P m'.toRig := by
  induction h with
  | halts h =>
    have hstep := hP.step hacts hactive.motion_eq hm
    rw [h] at hstep
    exact hstep
  | @goesOn m next m' states result h hrest ih =>
    have hscript := m.script_step around
    have hstep := hP.step hacts hactive.motion_eq hm
    rw [h] at hscript hstep
    have hscript : next.script = m.script := hscript
    rw [← hscript] at hacts
    exact ih hacts (Machine.active_of_step hactive h) hstep

theorem advances [Tuning.Valid R] {dt : R} {states : List (Machine R)} (hP : Upheld around A P)
    (hadvances : m.Advances around dt states m' result) (hacts : m.script.Acts A)
    (hparked : m.Parked) (hm : P m.toRig) : P m'.toRig := by
  have hsilent : Machine.Parked { m with console := #[] } := ⟨hparked.still⟩
  cases hadvances with
  | cancelled | finished | fails | waits => exact hm
  | runs _ _ hserve hcourse =>
    exact hP.course hcourse hacts ⟨hsilent.motion_of_serve hserve, rfl⟩ hm

end Rig.Upheld

end ReefRover
