import ReefRover.Proofs.Machine.Deed
import ReefRover.Proofs.Script.Tree

/-!
This module contains what a step of a machine can do: the executions of an instruction fall into six
kinds, and the steps into those that test a loop, end a body or execute an instruction.
-/

namespace ReefRover

variable {R : Type} [Scalar R]

def FrameKind.isGuarded : FrameKind → Bool
  | .loop (.untilTrue _) | .loop (.whileTrue _) => true
  | .block | .loop (.times _) | .loop .forever => false

def Instr.isLoop : Instr R → Bool
  | .repeatTimes .. | .forever _ | .repeatUntil .. | .whileDo .. => true
  | .action _ | .waitUntil _ | .ifThen .. | .ifThenElse .. | .ifElseIfElse .. | .breakLoop
  | .stopProject => false

inductive Instr.Runs : Instr R → BodyId → FrameKind → Prop where
  | repeatTimes {times : Option R} {body : BodyId} {left : Nat} (hpos : 1 ≤ left)
      (hle : left ≤ Scalar.count (times.getD Tuning.defaultRepeat)) :
    Runs (.repeatTimes times body) body (.loop (.times left))
  | forever {body : BodyId} : Runs (.forever body) body (.loop .forever)
  | repeatUntil {condition : CondId} {body : BodyId} :
    Runs (.repeatUntil condition body) body (.loop (.untilTrue condition))
  | whileDo {condition : CondId} {body : BodyId} :
    Runs (.whileDo condition body) body (.loop (.whileTrue condition))
  | branch {instr : Instr R} {body : BodyId} (hloop : instr.isLoop = false)
      (hbody : body ∈ instr.bodies) :
    Runs instr body .block

def Frame.isFresh (frame : Frame) : Prop :=
  frame.next = 0 ∧ frame.checkPending = frame.kind.isGuarded

theorem Frame.isFresh_block (body : BodyId) : (Frame.block body).isFresh :=
  ⟨rfl, rfl⟩

theorem Frame.isFresh_looping (body : BodyId) (kind : LoopKind) :
    (Frame.looping body kind).isFresh := by
  cases kind <;> exact ⟨rfl, rfl⟩

namespace Frame

def slot (frame : Frame) : Slot :=
  { body := frame.body, position := frame.next }

def movedOn (frame : Frame) : Frame :=
  { frame with next := frame.next + 1 }

def rewound? (frame : Frame) : Option Frame :=
  match frame.kind with
  | .block => none
  | .loop (.times left) =>
    if left ≤ 1 then none
    else some { frame with next := 0, kind := .loop (.times (left - 1)) }
  | .loop .forever => some { frame with next := 0 }
  | .loop (.untilTrue _) | .loop (.whileTrue _) =>
    some { frame with next := 0, checkPending := true }

end Frame

namespace Machine

inductive Executes (m : Machine R) (around : Surroundings R) :
    Instr R → Flow → Machine R → Prop where
  | acts {action : Action R} {outcome : Outcome R}
      (h : m.toRig.perform around action = .ok outcome) :
    Executes m around (.action action) (m.take outcome).1 (m.take outcome).2
  | passes {instr : Instr R} : Executes m around instr .next m
  | opens {instr : Instr R} {frame : Frame} (hruns : instr.Runs frame.body frame.kind)
      (hfresh : frame.isFresh) :
    Executes m around instr .next { m with frames := frame :: m.frames }
  | waits {condition : CondId} :
    Executes m around (.waitUntil condition) .suspend
      { m with wait := .poll condition Tuning.pollInterval }
  | breaks {below : List Frame} (h : belowLoop? m.frames = some below) :
    Executes m around .breakLoop .next { m with frames := below }
  | stops :
    Executes m around .stopProject .stop
      { m with
        motion := none
        frames := []
        console := m.console.push "stop project" }

theorem executes_of_exec {m m' : Machine R} {around : Surroundings R} {instr : Instr R}
    {flow : Flow} (h : m.exec around instr = .ok (flow, m')) :
    Executes m around instr flow m' := by
  cases instr
  case action action =>
    simp only [exec] at h
    rw [act_eq] at h
    cases hperform : m.toRig.perform around action with
    | error e =>
      rw [hperform] at h
      cases h
    | ok outcome =>
      rw [hperform] at h
      have htake : m.take outcome = (flow, m') := Except.ok.inj h
      have hacts : Executes m around (.action action) (m.take outcome).1 (m.take outcome).2 :=
        .acts hperform
      rw [htake] at hacts
      exact hacts
  case waitUntil condition =>
    obtain ⟨holds, htest, h⟩ := bind_eq_ok_iff.mp h
    cases holds with
    | true =>
      cases h
      exact .passes
    | false =>
      cases h
      exact .waits
  case repeatTimes times body =>
    obtain ⟨v, hfinite, h⟩ := bind_eq_ok_iff.mp h
    obtain ⟨-, rfl⟩ := finite_eq_ok_iff.mp hfinite
    dsimp only at h
    split at h
    . cases h
      exact .passes
    . next hcount =>
      cases h
      exact .opens (.repeatTimes (Nat.pos_of_ne_zero hcount) (Nat.le_refl _))
        (Frame.isFresh_looping _ _)
  case forever body =>
    cases h
    exact .opens .forever (Frame.isFresh_looping _ _)
  case repeatUntil condition body =>
    cases h
    exact .opens .repeatUntil (Frame.isFresh_looping _ _)
  case whileDo condition body =>
    cases h
    exact .opens .whileDo (Frame.isFresh_looping _ _)
  case ifThen condition yes =>
    obtain ⟨holds, htest, h⟩ := bind_eq_ok_iff.mp h
    cases holds with
    | true =>
      cases h
      exact .opens (.branch rfl (by simp [Frame.block, Instr.bodies])) (Frame.isFresh_block _)
    | false =>
      cases h
      exact .passes
  case ifThenElse condition yes otherwise =>
    obtain ⟨holds, htest, h⟩ := bind_eq_ok_iff.mp h
    cases holds with
    | true =>
      cases h
      exact .opens (.branch rfl (by simp [Frame.block, Instr.bodies])) (Frame.isFresh_block _)
    | false =>
      cases h
      exact .opens (.branch rfl (by simp [Frame.block, Instr.bodies])) (Frame.isFresh_block _)
  case ifElseIfElse condition yes elseIfCondition elseIf otherwise =>
    obtain ⟨first, htest, h⟩ := bind_eq_ok_iff.mp h
    cases first with
    | true =>
      cases h
      exact .opens (.branch rfl (by simp [Frame.block, Instr.bodies])) (Frame.isFresh_block _)
    | false =>
      obtain ⟨second, htest, h⟩ := bind_eq_ok_iff.mp h
      cases second with
      | true =>
        cases h
        exact .opens (.branch rfl (by simp [Frame.block, Instr.bodies])) (Frame.isFresh_block _)
      | false =>
        cases h
        exact .opens (.branch rfl (by simp [Frame.block, Instr.bodies])) (Frame.isFresh_block _)
  case breakLoop =>
    simp only [exec] at h
    cases hbelow : belowLoop? m.frames with
    | none =>
      rw [hbelow] at h
      cases h
    | some below =>
      rw [hbelow] at h
      cases h
      exact .breaks hbelow
  case stopProject =>
    cases h
    exact .stops

namespace Executes

variable {m m' : Machine R} {around : Surroundings R} {instr : Instr R}

theorem eq_of_stop (h : m.Executes around instr .stop m') :
    m' =
      { m with
        motion := none
        frames := []
        console := m.console.push "stop project" } := by
  generalize hflow : Flow.stop = flow at h
  cases h with
  | stops => rfl
  | acts hperform =>
    next action outcome => cases outcome <;> cases hflow
  | passes | opens | waits | breaks => cases hflow

theorem wait_of_suspend (h : m.Executes around instr .suspend m') :
    m'.wait = .motion ∨ (∃ seconds, m'.wait = .sleep seconds) ∨
      ∃ condition, instr = .waitUntil condition ∧
        m' = { m with wait := .poll condition Tuning.pollInterval } := by
  generalize hflow : Flow.suspend = flow at h
  cases h with
  | acts hperform =>
    next action outcome =>
      cases outcome with
      | goesOn => cases hflow
      | moves => exact .inl rfl
      | sleeps => exact .inr (.inl ⟨_, rfl⟩)
  | waits => exact .inr (.inr ⟨_, rfl, rfl⟩)
  | passes | opens | breaks | stops => cases hflow

end Executes

def betweenIterations : FrameKind → Wait R
  | .loop .forever => .sleep Tuning.foreverYield
  | .block | .loop (.times _) | .loop (.untilTrue _) | .loop (.whileTrue _) => .nextTick

theorem endBody_eq (m : Machine R) (frame : Frame) (below : List Frame) :
    m.endBody frame below =
      match frame.rewound? with
      | none => .next { m with frames := below }
      | some frame' =>
        .halt { m with frames := frame' :: below, wait := betweenIterations frame.kind }
          (.ok .pending) := by
  obtain ⟨body, next, kind, checkPending⟩ := frame
  unfold endBody Frame.rewound?
  cases kind with
  | block => rfl
  | loop kind =>
    cases kind with
    | times left =>
      dsimp only
      split
      . rfl
      . rfl
    | forever => rfl
    | untilTrue condition => rfl
    | whileTrue condition => rfl

inductive Takes (m : Machine R) (around : Surroundings R) : Step R → Prop where
  | done (hframes : m.frames = []) : Takes m around (.halt m (.ok .finished))
  | passesTest {frame : Frame} {below : List Frame} (hframes : m.frames = frame :: below)
      (hcheck : frame.checkPending = true) (htest : m.keepsLooping around frame.kind = .ok true) :
    Takes m around (.next { m with frames := { frame with checkPending := false } :: below })
  | leavesAtTest {frame : Frame} {below : List Frame} (hframes : m.frames = frame :: below)
      (hcheck : frame.checkPending = true) (htest : m.keepsLooping around frame.kind = .ok false) :
    Takes m around (.next { m with frames := below })
  | failsAtTest {frame : Frame} {below : List Frame} {e : ExecutionError R}
      (hframes : m.frames = frame :: below) (hcheck : frame.checkPending = true)
      (htest : m.keepsLooping around frame.kind = .error e) :
    Takes m around
      (.halt { m with frames := { frame with checkPending := false } :: below } (.error e))
  | leaves {frame : Frame} {below : List Frame} (hframes : m.frames = frame :: below)
      (hcheck : frame.checkPending = false) (hinstr : m.script.instr? frame.slot = none)
      (hrewound : frame.rewound? = none) :
    Takes m around (.next { m with frames := below })
  | turns {frame frame' : Frame} {below : List Frame} (hframes : m.frames = frame :: below)
      (hcheck : frame.checkPending = false) (hinstr : m.script.instr? frame.slot = none)
      (hrewound : frame.rewound? = some frame') :
    Takes m around
      (.halt { m with frames := frame' :: below, wait := betweenIterations frame.kind }
        (.ok .pending))
  | executes {frame : Frame} {below : List Frame} {instr : Instr R} {m' : Machine R}
      (hframes : m.frames = frame :: below) (hcheck : frame.checkPending = false)
      (hinstr : m.script.instr? frame.slot = some instr)
      (h : Executes { m with frames := frame.movedOn :: below } around instr .next m') :
    Takes m around (.next m')
  | suspends {frame : Frame} {below : List Frame} {instr : Instr R} {m' : Machine R}
      (hframes : m.frames = frame :: below) (hcheck : frame.checkPending = false)
      (hinstr : m.script.instr? frame.slot = some instr)
      (h : Executes { m with frames := frame.movedOn :: below } around instr .suspend m') :
    Takes m around (.halt m' (.ok .pending))
  | stops {frame : Frame} {below : List Frame} {instr : Instr R} {m' : Machine R}
      (hframes : m.frames = frame :: below) (hcheck : frame.checkPending = false)
      (hinstr : m.script.instr? frame.slot = some instr)
      (h : Executes { m with frames := frame.movedOn :: below } around instr .stop m') :
    Takes m around (.halt m' (.ok .stopped))
  | fails {frame : Frame} {below : List Frame} {instr : Instr R} {e : ExecutionError R}
      (hframes : m.frames = frame :: below) (hcheck : frame.checkPending = false)
      (hinstr : m.script.instr? frame.slot = some instr) :
    Takes m around (.halt { m with frames := frame.movedOn :: below } (.error e))
  | breaksOut {frame : Frame} {below : List Frame} {instr : Instr R}
      (hframes : m.frames = frame :: below) (hcheck : frame.checkPending = false)
      (hinstr : m.script.instr? frame.slot = some instr) :
    Takes m around (.halt { m with frames := [] } (.error .breakOutsideLoop))

theorem takes_step (m : Machine R) (around : Surroundings R) :
    m.Takes around (m.step around) := by
  unfold step
  split
  . next hframes => exact .done hframes
  . next frame below hframes =>
    split
    . next hcheck =>
      dsimp only
      split
      . next htest => exact .passesTest hframes hcheck htest
      . next htest => exact .leavesAtTest hframes hcheck htest
      . next htest => exact .failsAtTest hframes hcheck htest
    . next hcheck =>
      have hcheck : frame.checkPending = false := by simpa using hcheck
      split
      . next hinstr =>
        rw [endBody_eq]
        cases hrewound : frame.rewound? with
        | none => exact .leaves hframes hcheck hinstr hrewound
        | some frame' => exact .turns hframes hcheck hinstr hrewound
      . next hinstr =>
        dsimp only
        split
        . next hexec => exact .executes hframes hcheck hinstr (executes_of_exec hexec)
        . next hexec => exact .suspends hframes hcheck hinstr (executes_of_exec hexec)
        . next hexec => exact .stops hframes hcheck hinstr (executes_of_exec hexec)
        . next hexec => exact .breaksOut hframes hcheck hinstr
        . next hexec => exact .fails hframes hcheck hinstr

end Machine

end ReefRover
