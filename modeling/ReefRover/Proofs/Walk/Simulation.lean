import ReefRover.Proofs.Machine.Rest
import ReefRover.Proofs.Walk.Run

/-!
This module contains the walk that a machine makes: each frame is read as a task, with the blocks
that its body stands for. Step by step, and so timestep by timestep, a machine on the script of a
program does what a walk along the program does.
-/

namespace ReefRover

variable {R : Type}

def LoopKind.loop (s : Script R) : LoopKind → Loop R
  | .times left => .times left
  | .forever => .forever
  | .untilTrue condition => .guarded (.untilTrue (s.condition condition))
  | .whileTrue condition => .guarded (.whileTrue (s.condition condition))

namespace Frame

def task (s : Script R) (frame : Frame) : Task R :=
  match frame.checkPending, frame.kind with
  | _, .block => .block (frame.rest s)
  | true, .loop (.untilTrue condition) =>
    .test (.untilTrue (s.condition condition)) (s.ops frame.body)
  | true, .loop (.whileTrue condition) =>
    .test (.whileTrue (s.condition condition)) (s.ops frame.body)
  | _, .loop kind => .iteration (frame.rest s) (kind.loop s) (s.ops frame.body)

theorem isLoop_task (s : Script R) (frame : Frame) :
    (frame.task s).isLoop = frame.kind.isLoop := by
  obtain ⟨body, next, kind, checkPending⟩ := frame
  cases kind with
  | block => cases checkPending <;> rfl
  | loop kind => cases checkPending <;> cases kind <;> rfl

theorem task_block {s : Script R} {frame : Frame} (hkind : frame.kind = .block) :
    frame.task s = .block (frame.rest s) := by
  obtain ⟨body, next, kind, checkPending⟩ := frame
  cases hkind
  cases checkPending <;> rfl

theorem task_iteration {s : Script R} {frame : Frame} {kind : LoopKind}
    (hcheck : frame.checkPending = false) (hkind : frame.kind = .loop kind) :
    frame.task s = .iteration (frame.rest s) (kind.loop s) (s.ops frame.body) := by
  obtain ⟨body, next, kind', checkPending⟩ := frame
  cases hkind
  cases hcheck
  cases kind <;> rfl

theorem todo_task {s : Script R} {frame : Frame} (hfits : frame.Fits s) :
    (frame.task s).todo = frame.rest s := by
  obtain ⟨body, next, kind, checkPending⟩ := frame
  cases kind with
  | block => cases checkPending <;> rfl
  | loop kind =>
    cases checkPending with
    | false => rw [task_iteration rfl rfl, Task.todo]
    | true =>
      -- a pending test stands for a whole iteration, so it has to come before its first block
      obtain ⟨hnext, -⟩ := hfits.fresh rfl
      dsimp only at hnext
      subst hnext
      cases kind <;> rfl

end Frame

def Wait.pause (s : Script R) : Wait R → Pause R
  | .nothing => .nothing
  | .motion => .motion
  | .sleep left => .sleep left
  | .poll condition left => .poll (s.condition condition) left
  | .nextTick => .nextTick

def Machine.walker (m : Machine R) : Walker R :=
  { toRig := m.toRig
    tasks := m.frames.map (Frame.task m.script)
    pause := m.wait.pause m.script
    console := m.console }

def Step.stride : Step R → Walker.Stride R
  | .next m => (m.walker, none)
  | .halt m result => (m.walker, some result)

namespace Machine

theorem outsideLoop?_map_task (s : Script R) (frames : List Frame) :
    Walker.outsideLoop? (frames.map (Frame.task s)) =
      (belowLoop? frames).map fun below => below.map (Frame.task s) := by
  induction frames with
  | nil => rfl
  | cons frame frames ih =>
    rw [List.map_cons, Walker.outsideLoop?, belowLoop?, Frame.isLoop_task, ih]
    split <;> rfl

theorem tasks_walker {m : Machine R} {frame : Frame} {below : List Frame}
    (hframes : m.frames = frame :: below) :
    m.walker.tasks = frame.task m.script :: below.map (Frame.task m.script) := by
  rw [walker, hframes, List.map_cons]

variable [Scalar R]

theorem test_eq (m : Machine R) (around : Surroundings R) (condition : CondId) (op : String) :
    m.test around condition op = m.walker.test around (m.script.condition condition) op :=
  rfl

theorem exec_walker (m : Machine R) (around : Surroundings R) (instr : Instr R) :
    m.walker.exec around (instr.op m.script) =
      (m.exec around instr).map fun result => (result.1, result.2.walker) := by
  cases instr
  case action action =>
    simp only [exec, act_eq, Walker.exec, Instr.op]
    have hrig : m.walker.toRig = m.toRig := rfl
    rw [hrig]
    cases m.toRig.perform around action with
    | error e => rfl
    | ok outcome => cases outcome <;> rfl
  case waitUntil condition =>
    simp only [exec, Walker.exec, Instr.op, Instr.name]
    rw [← test_eq]
    cases m.test around condition "waitUntil" with
    | error e => rfl
    | ok holds => cases holds <;> rfl
  case repeatTimes times body =>
    simp only [exec, Walker.exec, Instr.op, Instr.name]
    cases finite "repeatTimes" "times" (times.getD Tuning.defaultRepeat) with
    | error e => rfl
    | ok v =>
      simp only [bind, Except.bind]
      split <;> rfl
  case forever body => rfl
  case repeatUntil condition body => rfl
  case whileDo condition body => rfl
  case ifThen condition yes =>
    simp only [exec, Walker.exec, Instr.op, Instr.name]
    rw [← test_eq]
    cases m.test around condition "ifThen" with
    | error e => rfl
    | ok holds => cases holds <;> rfl
  case ifThenElse condition yes otherwise =>
    simp only [exec, Walker.exec, Instr.op, Instr.name]
    rw [← test_eq]
    cases m.test around condition "ifThenElse" with
    | error e => rfl
    | ok holds => cases holds <;> rfl
  case ifElseIfElse condition yes elseIfCondition elseIf otherwise =>
    simp only [exec, Walker.exec, Instr.op, Instr.name]
    rw [← test_eq, ← test_eq]
    cases m.test around condition "ifElseIfElse" with
    | error e => rfl
    | ok first =>
      cases first with
      | true => rfl
      | false =>
        simp only [bind, Except.bind]
        cases m.test around elseIfCondition "ifElseIfElse" with
        | error e => rfl
        | ok second => cases second <;> rfl
  case breakLoop =>
    simp only [exec, Walker.exec, Instr.op]
    have htasks : m.walker.tasks = m.frames.map (Frame.task m.script) := rfl
    rw [htasks, outsideLoop?_map_task]
    cases belowLoop? m.frames with
    | none => rfl
    | some below => rfl
  case stopProject => rfl

theorem keepsLooping_untilTrue (m : Machine R) (around : Surroundings R) (condition : CondId) :
    m.keepsLooping around (.loop (.untilTrue condition)) =
      m.walker.keepsLooping around (.untilTrue (m.script.condition condition)) :=
  rfl

theorem keepsLooping_whileTrue (m : Machine R) (around : Surroundings R) (condition : CondId) :
    m.keepsLooping around (.loop (.whileTrue condition)) =
      m.walker.keepsLooping around (.whileTrue (m.script.condition condition)) :=
  rfl

theorem step_of_instr? {m : Machine R} {frame : Frame} {below : List Frame} {instr : Instr R}
    (around : Surroundings R) (hframes : m.frames = frame :: below)
    (hcheck : frame.checkPending = false) (hinstr : m.script.instr? frame.slot = some instr) :
    m.step around =
      match { m with frames := frame.movedOn :: below }.exec around instr with
      | .ok (.next, m') => .next m'
      | .ok (.suspend, m') => .halt m' (.ok .pending)
      | .ok (.stop, m') => .halt m' (.ok .stopped)
      | .error .breakOutsideLoop => .halt { m with frames := [] } (.error .breakOutsideLoop)
      | .error e => .halt { m with frames := frame.movedOn :: below } (.error e) := by
  have hget : (m.script.body frame.body)[frame.next]? = some instr := hinstr
  obtain ⟨body, next, kind, checkPending⟩ := frame
  subst hcheck
  simp only [step, hframes, Bool.false_eq_true, if_false, hget]
  rfl

theorem step_of_checkPending {m : Machine R} {frame : Frame} {below : List Frame}
    (around : Surroundings R) (hframes : m.frames = frame :: below)
    (hcheck : frame.checkPending = true) :
    m.step around =
      match m.keepsLooping around frame.kind with
      | .ok true => .next { m with frames := { frame with checkPending := false } :: below }
      | .ok false => .next { m with frames := below }
      | .error e =>
        .halt { m with frames := { frame with checkPending := false } :: below } (.error e) := by
  obtain ⟨body, next, kind, checkPending⟩ := frame
  subst hcheck
  simp only [step, hframes, if_true]
  rfl

theorem walker_proceed {m : Machine R} {frames : List Frame} {instr : Instr R}
    (around : Surroundings R) :
    m.walker.proceed around (instr.op m.script) (frames.map (Frame.task m.script)) =
      match { m with frames }.exec around instr with
      | .ok (.next, m') => (m'.walker, none)
      | .ok (.suspend, m') => (m'.walker, some (.ok .pending))
      | .ok (.stop, m') => (m'.walker, some (.ok .stopped))
      | .error .breakOutsideLoop =>
        ({ m with frames := [] }.walker, some (.error .breakOutsideLoop))
      | .error e => ({ m with frames }.walker, some (.error e)) := by
  have hexec := exec_walker { m with frames } around instr
  have hwalker : { m.walker with tasks := frames.map (Frame.task m.script) } =
      { m with frames }.walker := rfl
  unfold Walker.proceed
  dsimp only at hexec ⊢
  rw [hwalker, hexec]
  cases { m with frames }.exec around instr with
  | error e => cases e <;> rfl
  | ok result =>
    obtain ⟨flow, m'⟩ := result
    cases flow <;> rfl

theorem step_walker_instr {m : Machine R} {frame : Frame} {below : List Frame} {instr : Instr R}
    (around : Surroundings R) (htree : m.script.Tree) (hframes : m.frames = frame :: below)
    (hcheck : frame.checkPending = false) (hinstr : m.script.instr? frame.slot = some instr) :
    (m.step around).stride = m.walker.step around := by
  have hrest : frame.rest m.script = instr.op m.script :: frame.movedOn.rest m.script :=
    Frame.rest_of_instr? htree hinstr
  have hproceed : m.walker.step around =
      m.walker.proceed around (instr.op m.script)
        ((frame.movedOn :: below).map (Frame.task m.script)) := by
    have htasks := tasks_walker hframes
    rw [List.map_cons]
    cases hkind : frame.kind with
    | block =>
      have hmoved : frame.movedOn.kind = .block := hkind
      rw [Frame.task_block hkind, hrest] at htasks
      rw [Frame.task_block hmoved]
      simp only [Walker.step, htasks]
    | loop kind =>
      have hmoved : frame.movedOn.kind = .loop kind := hkind
      have hchecked : frame.movedOn.checkPending = false := hcheck
      rw [Frame.task_iteration hcheck hkind, hrest] at htasks
      rw [Frame.task_iteration hchecked hmoved]
      simp only [Walker.step, htasks]
      rfl
  rw [hproceed, walker_proceed, step_of_instr? around hframes hcheck hinstr]
  cases { m with frames := frame.movedOn :: below }.exec around instr with
  | error e => cases e <;> rfl
  | ok result =>
    obtain ⟨flow, m'⟩ := result
    cases flow <;> rfl

theorem step_walker_end {m : Machine R} {frame : Frame} {below : List Frame}
    (around : Surroundings R) (hframes : m.frames = frame :: below)
    (hcheck : frame.checkPending = false) (hinstr : m.script.instr? frame.slot = none) :
    (m.step around).stride = m.walker.step around := by
  have hget : (m.script.body frame.body)[frame.next]? = none := hinstr
  have hrest : frame.rest m.script = [] := Script.drop_ops_of_instr?_eq_none hinstr
  have htasks := tasks_walker hframes
  obtain ⟨body, next, kind, checkPending⟩ := frame
  subst hcheck
  simp only [step, hframes, Bool.false_eq_true, if_false, hget]
  cases kind with
  | block =>
    rw [Frame.task_block rfl, hrest] at htasks
    simp only [Walker.step, htasks]
    rfl
  | loop kind =>
    rw [Frame.task_iteration rfl rfl, hrest] at htasks
    simp only [Walker.step, htasks]
    cases kind with
    | times left =>
      simp only [endBody, Walker.endIteration, LoopKind.loop]
      split
      . rfl
      . rfl
    | forever => rfl
    | untilTrue condition => rfl
    | whileTrue condition => rfl

theorem step_walker_test {m : Machine R} {frame : Frame} {below : List Frame}
    (around : Surroundings R) (hfits : frame.Fits m.script) (hframes : m.frames = frame :: below)
    (hcheck : frame.checkPending = true) : (m.step around).stride = m.walker.step around := by
  have htasks := tasks_walker hframes
  obtain ⟨hnext, hguarded⟩ := hfits.fresh hcheck
  obtain ⟨body, next, kind, checkPending⟩ := frame
  dsimp only at hnext hguarded hcheck
  subst hcheck hnext
  -- neither a branch nor a loop without a condition waits for a test
  cases kind with
  | block => cases hguarded
  | loop kind =>
    cases kind with
    | times left => cases hguarded
    | forever => cases hguarded
    | untilTrue condition =>
      rw [step_of_checkPending around hframes rfl, keepsLooping_untilTrue]
      simp only [Frame.task] at htasks
      simp only [Walker.step, htasks]
      cases m.walker.keepsLooping around (.untilTrue (m.script.condition condition)) with
      | error e => rfl
      | ok keeps => cases keeps <;> rfl
    | whileTrue condition =>
      rw [step_of_checkPending around hframes rfl, keepsLooping_whileTrue]
      simp only [Frame.task] at htasks
      simp only [Walker.step, htasks]
      cases m.walker.keepsLooping around (.whileTrue (m.script.condition condition)) with
      | error e => rfl
      | ok keeps => cases keeps <;> rfl

theorem step_walker {m : Machine R} (around : Surroundings R) (htree : m.script.Tree)
    (hpath : m.OnPath) : (m.step around).stride = m.walker.step around := by
  cases hframes : m.frames with
  | nil =>
    have htasks : m.walker.tasks = [] := by simp [walker, hframes]
    simp only [step, hframes, Walker.step, htasks]
    rfl
  | cons frame below =>
    unfold OnPath at hpath
    rw [hframes] at hpath
    cases hcheck : frame.checkPending with
    | true => exact step_walker_test around hpath.fits hframes hcheck
    | false =>
      cases hinstr : m.script.instr? frame.slot with
      | none => exact step_walker_end around hframes hcheck hinstr
      | some instr => exact step_walker_instr around htree hframes hcheck hinstr

theorem weight_tasks_le {s : Script R} {frames : List Frame} (hpath : s.Path frames) :
    ((frames.map (Frame.task s)).map Task.weight).sum ≤
      2 * frames.length + 3 * s.load frames := by
  induction frames with
  | nil => exact Nat.le_refl _
  | cons frame below ih =>
    have hle := ih hpath.tail
    have hframe := (frame.task s).weight_le
    rw [Frame.todo_task hpath.fits] at hframe
    rw [Script.load_cons]
    simp only [List.map_cons, List.sum_cons, List.length_cons]
    omega

theorem weight_walker_lt {m : Machine R} (htree : m.script.Tree) (hpath : m.OnPath)
    (hcount : m.script.instrCount = Program.size (m.script.ops Script.root)) :
    m.walker.weight < m.budget := by
  have hweight := weight_tasks_le hpath
  have hsize := hpath.load_le htree
  have hlength : m.walker.weight = ((m.frames.map (Frame.task m.script)).map Task.weight).sum := rfl
  unfold budget
  omega

theorem run_walker {m : Machine R} (around : Surroundings R) (htree : m.script.Tree)
    (hpath : m.OnPath) (budget : Nat) (hbudget : m.walker.weight < budget) :
    (run around budget m).map Machine.walker id = m.walker.run around := by
  induction budget generalizing m with
  | zero => omega
  | succ budget ih =>
    have hstep := step_walker around htree hpath
    have hpath' := onPath_step around hpath
    rw [run]
    split
    -- the walk gets lighter with each step, so what is left of the budget is enough for it
    . next m' hnext =>
      rw [hnext] at hstep hpath'
      have hwalk : m.walker.step around = (m'.walker, none) := hstep.symm
      have hlt := Walker.step_weight_lt hwalk
      have hscript : m'.script = m.script := hpath'.2
      rw [Walker.run_of_next hwalk]
      apply ih
      . rw [hscript]
        exact htree
      . exact hpath'.1
      . omega
    . next m' result hhalt =>
      rw [hhalt] at hstep
      have hwalk : m.walker.step around = (m'.walker, some result) := hstep.symm
      rw [Walker.run_of_halt hwalk]
      rfl

theorem serve_walker (m : Machine R) (around : Surroundings R) (dt : R) :
    m.walker.serve around dt =
      (m.serve around dt).map (Option.map (Wait.pause m.script)) := by
  unfold Walker.serve serve
  have hpause : m.walker.pause = m.wait.pause m.script := rfl
  rw [hpause]
  cases m.wait with
  | nothing => rfl
  | nextTick => rfl
  | motion =>
    have hmoving : m.walker.toRig = m.toRig := rfl
    simp only [Wait.pause, hmoving]
    split <;> rfl
  | sleep left =>
    simp only [Wait.pause]
    split <;> rfl
  | poll condition left =>
    simp only [Wait.pause]
    split
    . rfl
    . rw [← test_eq]
      cases m.test around condition "waitUntil" with
      | error e => rfl
      | ok holds => cases holds <;> rfl

theorem advance_walker {m : Machine R} (around : Surroundings R) (dt : R) (htree : m.script.Tree)
    (hpath : m.OnPath) (hcount : m.script.instrCount = Program.size (m.script.ops Script.root)) :
    (m.advance around dt).map Machine.walker id = m.walker.advance around dt := by
  have hserve := serve_walker { m with console := #[] } around dt
  have hcancelled : m.walker.cancelled = m.cancelled := rfl
  have hdone : m.walker.tasks.isEmpty = m.isDone := List.isEmpty_map
  unfold advance Walker.advance
  dsimp only at hserve ⊢
  rw [hcancelled, hdone]
  split
  . rfl
  . have hisDone : { m with console := #[] }.isDone = m.isDone := rfl
    rw [hisDone]
    split
    . rfl
    . have hwalk : { m.walker with console := #[] }.serve around dt =
          ({ m with console := #[] }.serve around dt).map (Option.map (Wait.pause m.script)) :=
        hserve
      rw [hwalk]
      cases { m with console := #[] }.serve around dt with
      | error e => rfl
      | ok wait? =>
        cases wait? with
        | some wait => rfl
        | none =>
          apply run_walker (m := { m with console := #[], wait := .nothing }) around htree hpath
          exact weight_walker_lt (m := { m with console := #[], wait := .nothing }) htree hpath
            hcount

/-- A machine has a script that holds the program, and frames that are a path in it. -/
structure Runs (m : Machine R) (p : Program R) : Prop where
  script_eq : m.script = Script.ofProgram p
  onPath : m.OnPath

theorem runs_launch (p : Program R) (robot : Robot R) :
    (launch (Script.ofProgram p) robot).Runs p :=
  ⟨rfl, onPath_launch _ robot⟩

namespace Runs

variable {m : Machine R} {p : Program R}

theorem handle (h : m.Runs p) (event : Event R) : (m.handle event).Runs p := by
  obtain ⟨hpath, hscript⟩ := onPath_handle event h.onPath
  exact ⟨hscript.trans h.script_eq, hpath⟩

theorem tree (h : m.Runs p) : m.script.Tree := by
  rw [h.script_eq]
  exact Script.tree_ofProgram p

theorem ops_root (h : m.Runs p) : m.script.ops Script.root = p := by
  rw [h.script_eq, Script.ops, Script.readBody?_root, Option.getD_some]

theorem instrCount_eq (h : m.Runs p) : m.script.instrCount = Program.size p := by
  rw [h.script_eq, Script.instrCount_ofProgram]

theorem advance_walker (h : m.Runs p) (around : Surroundings R) (dt : R) :
    (m.advance around dt).map Machine.walker id = m.walker.advance around dt := by
  apply Machine.advance_walker around dt h.tree h.onPath
  rw [h.instrCount_eq, h.ops_root]

theorem handle_walker (h : m.Runs p) (event : Event R) :
    (m.handle event).walker = m.walker.handle event := by
  cases event with
  | cancel => rfl
  | animate dt => rfl
  | advance around dt => exact congrArg Prod.fst (h.advance_walker around dt)

theorem after (h : m.Runs p) (events : List (Event R)) : (m.after events).Runs p := by
  obtain ⟨hpath, hscript⟩ := onPath_after events h.onPath
  exact ⟨hscript.trans h.script_eq, hpath⟩

theorem after_walker (h : m.Runs p) (events : List (Event R)) :
    (m.after events).walker = m.walker.after events := by
  induction events generalizing m with
  | nil => rfl
  | cons event events ih =>
    have hwalker := ih (h.handle event)
    rw [h.handle_walker event] at hwalker
    exact hwalker

end Runs

theorem walker_launch (p : Program R) (robot : Robot R) :
    (launch (Script.ofProgram p) robot).walker = Walker.start p robot := by
  have hops := (runs_launch p robot).ops_root
  have htask : (Frame.block Script.root).task (Script.ofProgram p) = .block p :=
    congrArg Task.block hops
  unfold walker launch Walker.start
  simp only [List.map_cons, List.map_nil, htask]
  rfl

/-- A machine on the script of a program goes through the same session as a walk along it. -/
theorem session_eq_walk (p : Program R) (robot : Robot R) (events : List (Event R)) :
    ((launch (Script.ofProgram p) robot).after events).walker =
        (Walker.start p robot).after events ∧
      ∀ around dt,
        (((launch (Script.ofProgram p) robot).after events).advance around dt).2 =
          (((Walker.start p robot).after events).advance around dt).2 := by
  have hruns := (runs_launch p robot).after events
  have hwalker := (runs_launch p robot).after_walker events
  rw [walker_launch] at hwalker
  refine ⟨hwalker, ?_⟩
  intro around dt
  rw [← hwalker, ← hruns.advance_walker]
  rfl

end Machine

end ReefRover
