import ReefRover.Proofs.Machine.Idle
import ReefRover.Proofs.Program.Fault
import ReefRover.Proofs.Walk.Simulation

/-!
This module contains the proof that a run fails only by a fault of its program. The tasks of a walk
are nested as the bodies of its program are, its robot is at rest at every block, and whether a
condition can be tested does not depend on what the sensors read.
-/

namespace ReefRover

variable {R : Type}

namespace Guard

def condition : Guard R → Expr R
  | untilTrue c | whileTrue c => c

def name : Guard R → String
  | untilTrue _ => "repeatUntil"
  | whileTrue _ => "while"

def Stands (guard : Guard R) (p : Program R) : Prop :=
  ∃ op ∈ Program.blocks p, op.name = guard.name ∧ guard.condition ∈ op.conditions

end Guard

namespace Program

inductive Nests (p : Program R) : List (Task R) → Prop where
  | nil : Nests p []
  | block {todo body : List (Op R)} {rest : List (Task R)} (hbody : body ∈ bodies p)
      (htodo : todo <:+ body) (hunlooped : Walker.outsideLoop? rest = none → body ∈ unlooped p)
      (h : Nests p rest) :
    Nests p (.block todo :: rest)
  | iteration {todo body : List (Op R)} {loop : Loop R} {rest : List (Task R)}
      (hbody : body ∈ bodies p) (htodo : todo <:+ body)
      (hguard : ∀ guard, loop = .guarded guard → guard.Stands p) (h : Nests p rest) :
    Nests p (.iteration todo loop body :: rest)
  | test {guard : Guard R} {body : List (Op R)} {rest : List (Task R)} (hbody : body ∈ bodies p)
      (hguard : guard.Stands p) (h : Nests p rest) :
    Nests p (.test guard body :: rest)

structure Comes (p : Program R) (op : Op R) (tasks : List (Task R)) : Prop where
  nests : Nests p tasks
  inside : ∃ body ∈ bodies p, op ∈ body ∧
    (Walker.outsideLoop? tasks = none → body ∈ unlooped p)

namespace Nests

variable {p : Program R} {op : Op R} {todo body : List (Op R)} {loop : Loop R} {task : Task R}
  {tasks rest : List (Task R)}

theorem tail (h : Nests p (task :: rest)) : Nests p rest := by
  cases h with
  | block hbody htodo hunlooped h => exact h
  | iteration hbody htodo hguard h => exact h
  | test hbody hguard h => exact h

theorem of_suffix (h : Nests p tasks) (hsuffix : rest <:+ tasks) : Nests p rest := by
  induction tasks with
  | nil =>
    rw [List.suffix_nil.mp hsuffix]
    exact .nil
  | cons task tasks ih =>
    rcases List.suffix_cons_iff.mp hsuffix with rfl | hsuffix
    . exact h
    . exact ih h.tail hsuffix

theorem comes_block (h : Nests p (.block (op :: todo) :: rest)) :
    Comes p op (.block todo :: rest) := by
  cases h with
  | @block _ body _ hbody htodo hunlooped h =>
    exact
      { nests := .block hbody ((List.suffix_cons op todo).trans htodo) hunlooped h
        inside := ⟨body, hbody, htodo.subset List.mem_cons_self, hunlooped⟩ }

theorem comes_iteration (h : Nests p (.iteration (op :: todo) loop body :: rest)) :
    Comes p op (.iteration todo loop body :: rest) := by
  cases h with
  | iteration hbody htodo hguard h =>
    refine
      { nests := .iteration hbody ((List.suffix_cons op todo).trans htodo) hguard h
        inside := ⟨body, hbody, htodo.subset List.mem_cons_self, ?_⟩ }
    intro hnone
    cases hnone

end Nests

namespace Comes

variable {p : Program R} {op : Op R} {tasks : List (Task R)}

theorem mem_blocks (h : Comes p op tasks) : op ∈ blocks p := by
  obtain ⟨body, hbody, hop, -⟩ := h.inside
  exact Program.mem_blocks hbody hop

theorem mem_bodies (h : Comes p op tasks) {inner : List (Op R)} (hinner : inner ∈ op.bodies) :
    inner ∈ bodies p := by
  obtain ⟨body, hbody, hop, -⟩ := h.inside
  exact mem_bodies_trans hbody hop hinner

variable [Scalar R]

theorem opens (h : Comes p op tasks) {task : Task R} (hopens : op.Opens task) :
    Nests p (task :: tasks) := by
  cases hopens with
  | repeatTimes hcount =>
    apply Nests.iteration (h.mem_bodies List.mem_cons_self) List.suffix_rfl _ h.nests
    intro guard heq
    cases heq
  | forever =>
    apply Nests.iteration (h.mem_bodies List.mem_cons_self) List.suffix_rfl _ h.nests
    intro guard heq
    cases heq
  | repeatUntil =>
    exact .test (h.mem_bodies List.mem_cons_self) ⟨_, h.mem_blocks, rfl, List.mem_cons_self⟩ h.nests
  | whileDo =>
    exact .test (h.mem_bodies List.mem_cons_self) ⟨_, h.mem_blocks, rfl, List.mem_cons_self⟩ h.nests
  -- a branch lies in no loop exactly if the block that it belongs to lies in none
  | branch hloop hbody =>
    apply Nests.block (h.mem_bodies hbody) List.suffix_rfl _ h.nests
    intro hnone
    obtain ⟨body, -, hop, hunlooped⟩ := h.inside
    exact mem_unlooped_trans (hunlooped hnone) hop hloop hbody

theorem fault [Tuning.Valid R] {w : Walker R} {around : Surroundings R} {e : ExecutionError R}
    (h : Comes p op w.tasks) (hidle : w.motion = none) (hfails : w.Fails around op e) :
    Fault p e := by
  have hop := h.mem_blocks
  cases hfails with
  | action hperform =>
    obtain ⟨field, v, hnumber, hvalue, rfl⟩ := Rig.perform_eq_error hidle hperform
    apply Fault.nonFinite hop _ hvalue
    simp [Op.numbers, hnumber]
  | times htimes =>
    apply Fault.nonFinite hop _ htimes
    have hgiven := getD_of_not_finite Tuning.Valid.repeat_finite htimes
    unfold Op.numbers
    rw [hgiven]
    exact List.mem_singleton.mpr rfl
  | condition hmem htest => exact .condition hop hmem (Expr.test_eq_error_iff.mp htest)
  | breakLoop hnone =>
    obtain ⟨body, -, hmem, hunlooped⟩ := h.inside
    exact .breakOutsideLoop (hunlooped hnone) hmem

end Comes

end Program

namespace Walker

/-- A walk along a program between two timesteps. -/
structure Rests (p : Program R) (w : Walker R) : Prop where
  nests : p.Nests w.tasks
  polls : ∀ c left, w.pause = .poll c left → .waitUntil c ∈ p.blocks
  still : w.motion = none ∨ w.pause = .motion

theorem Rests.motion_eq {p : Program R} {w : Walker R} (h : w.Rests p)
    (hpause : w.pause ≠ .motion) : w.motion = none :=
  h.still.resolve_right hpause

/-- A walk along a program within a timestep. -/
structure Goes (p : Program R) (w : Walker R) : Prop where
  nests : p.Nests w.tasks
  pause_eq : w.pause = .nothing
  motion_eq : w.motion = none

theorem Goes.rests {p : Program R} {w : Walker R} (h : w.Goes p) : w.Rests p where
  nests := h.nests
  polls := by
    intro c left hpause
    rw [h.pause_eq] at hpause
    cases hpause
  still := .inl h.motion_eq

theorem Goes.withTasks {p : Program R} {w : Walker R} {tasks : List (Task R)} (h : w.Goes p)
    (hnests : p.Nests tasks) : Goes p { w with tasks } :=
  ⟨hnests, h.pause_eq, h.motion_eq⟩

theorem Goes.suspend {p : Program R} {w : Walker R} {tasks : List (Task R)} {pause : Pause R}
    (h : w.Goes p) (hnests : p.Nests tasks)
    (hpolls : ∀ c left, pause = .poll c left → .waitUntil c ∈ p.blocks) :
    Rests p { w with tasks, pause } :=
  ⟨hnests, hpolls, .inl h.motion_eq⟩

theorem rests_start (p : Program R) (robot : Robot R) : (start p robot).Rests p where
  nests := .block (Program.mem_bodies_self p) List.suffix_rfl
    (fun _ => Program.mem_unlooped_self p) .nil
  polls := nofun
  still := .inl rfl

variable [Scalar R]

theorem keepsLooping_eq_error {w : Walker R} {around : Surroundings R} {guard : Guard R}
    {e : ExecutionError R} (h : w.keepsLooping around guard = .error e) :
    ∃ source, guard.condition.fault? = some source ∧ e = .condition guard.name source := by
  cases guard with
  | untilTrue c =>
    unfold keepsLooping at h
    dsimp only at h
    cases htest : w.test around c "repeatUntil" with
    | ok holds =>
      rw [htest] at h
      cases h
    | error e' =>
      rw [htest] at h
      cases h
      obtain ⟨source, hsource, rfl⟩ := test_eq_error_iff.mp htest
      exact ⟨source, Expr.test_eq_error_iff.mp hsource, rfl⟩
  | whileTrue c =>
    obtain ⟨source, hsource, rfl⟩ := test_eq_error_iff.mp h
    exact ⟨source, Expr.test_eq_error_iff.mp hsource, rfl⟩

structure Leads (p : Program R) (stride : Stride R) : Prop where
  rests : stride.1.Rests p
  goes : stride.2 = none → stride.1.Goes p
  fault : ∀ e, stride.2 = some (.error e) → p.Fault e

variable {p : Program R} {w w' : Walker R} {around : Surroundings R}

theorem Goes.leads (h : w.Goes p) : Leads p (w, none) :=
  ⟨h.rests, fun _ => h, nofun⟩

theorem Rests.leads {progress : Progress} (h : w.Rests p) : Leads p (w, some (.ok progress)) :=
  ⟨h, nofun, nofun⟩

theorem Rests.leads_error {e : ExecutionError R} (h : w.Rests p) (hfault : p.Fault e) :
    Leads p (w, some (.error e)) where
  rests := h
  goes := nofun
  fault := by
    intro e' he
    cases he
    exact hfault

theorem Goes.after_executes [Tuning.Valid R] {op : Op R} {flow : Flow} (h : w.Goes p)
    (hcomes : p.Comes op w.tasks) (hexecutes : w.Executes around op flow w') :
    w'.Rests p ∧ (flow = .next → w'.Goes p) := by
  cases hexecutes with
  | acts hperform =>
    next action outcome =>
      cases outcome with
      | goesOn rig line =>
        have hgoes : (w.take (.goesOn rig line)).2.Goes p :=
          ⟨h.nests, h.pause_eq, Rig.motion_of_perform h.motion_eq hperform⟩
        exact ⟨hgoes.rests, fun _ => hgoes⟩
      | moves rig => exact ⟨⟨h.nests, nofun, .inr rfl⟩, nofun⟩
      | sleeps seconds => exact ⟨h.suspend h.nests nofun, nofun⟩
  | passes => exact ⟨h.rests, fun _ => h⟩
  | opens hopens =>
    have hgoes := h.withTasks (hcomes.opens hopens)
    exact ⟨hgoes.rests, fun _ => hgoes⟩
  | waits htest =>
    refine ⟨h.suspend h.nests ?_, nofun⟩
    intro c left hpause
    cases hpause
    exact hcomes.mem_blocks
  | breaks houtside =>
    have hgoes := h.withTasks (h.nests.of_suffix (outsideLoop?_suffix houtside))
    exact ⟨hgoes.rests, fun _ => hgoes⟩
  | stops => exact ⟨⟨.nil, h.rests.polls, .inl rfl⟩, nofun⟩

theorem Goes.proceed [Tuning.Valid R] {op : Op R} {tasks : List (Task R)} (h : w.Goes p)
    (hcomes : p.Comes op tasks) : Leads p (w.proceed around op tasks) := by
  have hgoes := h.withTasks hcomes.nests
  unfold Walker.proceed
  dsimp only
  split
  . next hexec =>
    obtain ⟨-, hnext⟩ := hgoes.after_executes hcomes (executes_of_exec hexec)
    exact (hnext rfl).leads
  . next hexec => exact (hgoes.after_executes hcomes (executes_of_exec hexec)).1.leads
  . next hexec => exact (hgoes.after_executes hcomes (executes_of_exec hexec)).1.leads
  -- only a `break` that fails leaves no tasks
  . next hexec =>
    have hfault := hcomes.fault hgoes.motion_eq (fails_of_exec hexec)
    exact (h.withTasks .nil).rests.leads_error hfault
  . next hexec =>
    have hfault := hcomes.fault hgoes.motion_eq (fails_of_exec hexec)
    exact hgoes.rests.leads_error hfault

theorem Goes.endIteration {loop : Loop R} {body : List (Op R)} {rest : List (Task R)}
    (h : w.Goes p) (hnests : p.Nests (.iteration [] loop body :: rest)) :
    Leads p (w.endIteration loop body rest) := by
  cases hnests with
  | iteration hbody htodo hguard hrest =>
    unfold Walker.endIteration
    split
    . split
      . exact (h.withTasks hrest).leads
      . apply Rests.leads
        apply h.suspend
        . exact .iteration hbody List.suffix_rfl nofun hrest
        . nofun
    . apply Rests.leads
      apply h.suspend
      . exact .iteration hbody List.suffix_rfl nofun hrest
      . nofun
    . next guard =>
      apply Rests.leads
      apply h.suspend
      . exact .test hbody (hguard guard rfl) hrest
      . nofun

theorem Goes.step [Tuning.Valid R] (h : w.Goes p) : Leads p (w.step around) := by
  have hnests := h.nests
  unfold Walker.step
  split
  . exact h.rests.leads
  . next htasks =>
    rw [htasks] at hnests
    exact (h.withTasks hnests.tail).leads
  . next htasks =>
    rw [htasks] at hnests
    exact h.proceed hnests.comes_block
  . next htasks =>
    rw [htasks] at hnests
    exact h.endIteration hnests
  . next htasks =>
    rw [htasks] at hnests
    exact h.proceed hnests.comes_iteration
  . next guard body rest htasks =>
    rw [htasks] at hnests
    cases hnests with
    | test hbody hguard hrest =>
      have hinside : p.Nests (.iteration body (.guarded guard) body :: rest) := by
        apply Program.Nests.iteration hbody List.suffix_rfl _ hrest
        intro guard' heq
        cases heq
        exact hguard
      dsimp only
      split
      . exact (h.withTasks hinside).leads
      . exact (h.withTasks hrest).leads
      . next htest =>
        obtain ⟨source, hsource, rfl⟩ := keepsLooping_eq_error htest
        obtain ⟨op, hop, hname, hcondition⟩ := hguard
        rw [← hname]
        exact (h.withTasks hinside).rests.leads_error (.condition hop hcondition hsource)

theorem Goes.run [Tuning.Valid R] {w : Walker R} (h : w.Goes p) :
    (w.run around).1.Rests p ∧ ∀ e, (w.run around).2 = .error e → p.Fault e := by
  have hleads : Leads p (w.step around) := h.step
  cases hstep : w.step around with
  | mk w' result? =>
    rw [hstep] at hleads
    cases result? with
    | none =>
      have hlt := step_weight_lt hstep
      rw [run_of_next hstep]
      exact run (hleads.goes rfl)
    | some result =>
      rw [run_of_halt hstep]
      refine ⟨hleads.rests, ?_⟩
      intro e he
      exact hleads.fault e (congrArg some he)
termination_by w.weight

theorem Rests.serve_error {dt : R} {e : ExecutionError R} (h : w.Rests p)
    (hserve : w.serve around dt = .error e) : p.Fault e := by
  unfold Walker.serve at hserve
  split at hserve
  . cases hserve
  . cases hserve
  . cases hserve
  . cases hserve
  . next c left hpause =>
    split at hserve
    . cases hserve
    . cases htest : w.test around c "waitUntil" with
      | ok holds =>
        rw [htest] at hserve
        cases hserve
      | error e' =>
        rw [htest] at hserve
        cases hserve
        obtain ⟨source, hsource, rfl⟩ := test_eq_error_iff.mp htest
        exact .condition (h.polls c left hpause) List.mem_cons_self
          (Expr.test_eq_error_iff.mp hsource)

theorem Rests.serve_some {dt : R} {pause : Pause R} (h : w.Rests p)
    (hserve : w.serve around dt = .ok (some pause)) : Rests p { w with pause } := by
  unfold Walker.serve at hserve
  split at hserve
  . cases hserve
  . cases hserve
  . split at hserve
    . cases hserve
      exact ⟨h.nests, nofun, .inr rfl⟩
    . cases hserve
  . next hpause =>
    split at hserve
    . cases hserve
      refine ⟨h.nests, nofun, .inl (h.motion_eq ?_)⟩
      rw [hpause]
      nofun
    . cases hserve
  . next c left hpause =>
    have hmotion : w.motion = none := by
      apply h.motion_eq
      rw [hpause]
      nofun
    have hpolls : ∀ left', Rests p { w with pause := .poll c left' } := by
      intro left'
      refine ⟨h.nests, ?_, .inl hmotion⟩
      intro c' left'' heq
      cases heq
      exact h.polls c left hpause
    split at hserve
    . cases hserve
      exact hpolls _
    . cases htest : w.test around c "waitUntil" with
      | error e =>
        rw [htest] at hserve
        cases hserve
      | ok holds =>
        rw [htest] at hserve
        cases holds with
        | true => cases hserve
        | false =>
          cases hserve
          exact hpolls _

theorem Rests.serve_none {dt : R} (h : w.Rests p) (hserve : w.serve around dt = .ok none) :
    w.motion = none := by
  -- a motion can be under way only if the pause is for its end, and then that end has come
  by_cases hpause : w.pause = .motion
  . unfold Walker.serve at hserve
    rw [hpause] at hserve
    cases hmotion : w.motion with
    | none => rfl
    | some motion =>
      have hmoving : w.toRig.isMoving = true := by
        unfold Rig.isMoving
        rw [hmotion]
        rfl
      simp [hmoving] at hserve
  . exact h.motion_eq hpause

theorem Rests.advance [Tuning.Valid R] (h : w.Rests p) (around : Surroundings R) (dt : R) :
    (w.advance around dt).1.Rests p ∧ ∀ e, (w.advance around dt).2 = .error e → p.Fault e := by
  have hrests : Rests p { w with console := #[] } := ⟨h.nests, h.polls, h.still⟩
  unfold Walker.advance
  dsimp only
  split
  . exact ⟨hrests, nofun⟩
  . split
    . exact ⟨hrests, nofun⟩
    . split
      . next e hserve =>
        refine ⟨hrests, ?_⟩
        intro e' he
        cases he
        exact hrests.serve_error hserve
      . next pause hserve => exact ⟨hrests.serve_some hserve, nofun⟩
      . next hserve => exact Goes.run ⟨h.nests, rfl, hrests.serve_none hserve⟩

theorem Rests.handle [Tuning.Valid R] (h : w.Rests p) (event : Event R) :
    (w.handle event).Rests p := by
  cases event with
  | cancel => exact ⟨h.nests, h.polls, h.still⟩
  | animate dt => exact ⟨h.nests, h.polls, h.still.imp_left Rig.motion_step⟩
  | advance around dt => exact (h.advance around dt).1

theorem Rests.after [Tuning.Valid R] (h : w.Rests p) (events : List (Event R)) :
    (w.after events).Rests p := by
  induction events generalizing w with
  | nil => exact h
  | cons event events ih => exact ih (h.handle event)

end Walker

/-- Only what can be seen in a program makes a run of it fail. -/
theorem Machine.session_fails_by_fault (p : Program Float32) (robot : Robot Float32)
    (events : List (Event Float32)) (around : Surroundings Float32) (dt : Float32) :
    let result := (((launch (Script.ofProgram p) robot).after events).advance around dt).2
    (∀ e, result = .error e → p.Fault e) ∧
      (∀ op, result ≠ .error (.motionInFlight op)) ∧
      (∀ reason, result ≠ .error (.malformed reason)) ∧
      (p.Faultless → ∃ progress, result = .ok progress) := by
  intro result
  have hfault : ∀ e, result = .error e → p.Fault e := by
    -- the machine is read as its walk, which keeps to the nesting of the program
    have hruns := (runs_launch p robot).after events
    have hwalker := (runs_launch p robot).after_walker events
    have hrests := (Walker.rests_start p robot).after events
    rw [walker_launch] at hwalker
    rw [← hwalker] at hrests
    have hadvance := (hrests.advance around dt).2
    rw [← hruns.advance_walker around dt] at hadvance
    exact hadvance
  refine ⟨hfault, ?_, ?_, ?_⟩
  . intro op h
    cases hfault _ h
  . intro reason h
    cases hfault _ h
  . intro hfaultless
    cases hresult : result with
    | ok progress => exact ⟨progress, rfl⟩
    | error e => exact absurd (hfault e hresult) (hfaultless.not_fault e)

theorem Machine.session_fails_at_while :
    let p : Program Float32 := [.forever [.whileDo (.sensor .positionX) []]]
    let m := launch (Script.ofProgram p) (.atRest ⟨0, 0⟩)
    ((m.after []).advance ⟨1, 0⟩ 0).2 = .error (.condition "while" (.expectedBoolean .number)) ∧
      p.Fault (.condition "while" (.expectedBoolean .number)) := by
  intro p m
  have hresult : ((m.after []).advance ⟨1, 0⟩ 0).2 =
      .error (.condition "while" (.expectedBoolean .number)) := by
    have hwalk := (runs_launch p (.atRest ⟨0, 0⟩)).advance_walker ⟨1, 0⟩ 0
    have hrun : (Walker.start p (.atRest ⟨0, 0⟩)).advance ⟨1, 0⟩ 0 =
        (Walker.start p (.atRest ⟨0, 0⟩)).run ⟨1, 0⟩ := rfl
    rw [walker_launch, hrun, Walker.run_of_next rfl, Walker.run_of_next rfl, Walker.run_of_halt rfl]
      at hwalk
    exact congrArg Prod.snd hwalk
  exact ⟨hresult, (session_fails_by_fault p (.atRest ⟨0, 0⟩) [] ⟨1, 0⟩ 0).1 _ hresult⟩

end ReefRover
