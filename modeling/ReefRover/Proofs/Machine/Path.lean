import ReefRover.Proofs.Machine.Step
import ReefRover.Proofs.Script.Mirror
import ReefRover.Proofs.Walk.Run

/-!
This module contains the invariant of a machine: its frames are a path in the script. The outermost
frame executes the top-level body, and each other frame executes a body of the instruction that the
frame around it has just come past.
-/

namespace ReefRover

variable {R : Type}

theorem Machine.belowLoop?_suffix {frames below : List Frame} (h : belowLoop? frames = some below) :
    below <:+ frames := by
  induction frames with
  | nil => cases h
  | cons frame frames ih =>
    rw [belowLoop?] at h
    split at h
    . cases h
      exact List.suffix_cons _ _
    . exact (ih h).trans (List.suffix_cons _ _)

/-- A frame stays inside its body, and tests a condition at the start of an iteration only. -/
structure Frame.Fits (s : Script R) (frame : Frame) : Prop where
  next_le : frame.next ≤ (s.body frame.body).size
  fresh : frame.checkPending = true → frame.next = 0 ∧ frame.kind.isGuarded = true

theorem Frame.isFresh.fits {s : Script R} {frame : Frame} (h : frame.isFresh) : frame.Fits s where
  next_le := by
    rw [h.1]
    exact Nat.zero_le _
  fresh := by
    intro hcheck
    rw [← h.2]
    exact ⟨h.1, hcheck⟩

variable [Scalar R]

inductive Script.Path (s : Script R) : List Frame → Prop where
  | empty : Path s []
  | outermost {frame : Frame} (hbody : frame.body = Script.root) (hkind : frame.kind = .block)
      (hfits : frame.Fits s) :
    Path s [frame]
  | inside {frame outer : Frame} {below : List Frame} {position : Nat} {instr : Instr R}
      (h : Path s (outer :: below)) (hnext : outer.next = position + 1)
      (hinstr : s.instr? ⟨outer.body, position⟩ = some instr)
      (hruns : instr.Runs frame.body frame.kind) (hfits : frame.Fits s) :
    Path s (frame :: outer :: below)

namespace Script.Path

variable {s : Script R} {frame frame' : Frame} {below : List Frame}

theorem fits (h : s.Path (frame :: below)) : frame.Fits s := by
  cases h with
  | outermost hbody hkind hfits => exact hfits
  | inside h hnext hinstr hruns hfits => exact hfits

theorem tail (h : s.Path (frame :: below)) : s.Path below := by
  cases h with
  | outermost hbody hkind hfits => exact .empty
  | inside h hnext hinstr hruns hfits => exact h

theorem of_suffix {frames below : List Frame} (h : s.Path frames) (hsuffix : below <:+ frames) :
    s.Path below := by
  induction frames with
  | nil =>
    rw [List.suffix_nil.mp hsuffix]
    exact .empty
  | cons frame frames ih =>
    rcases List.suffix_cons_iff.mp hsuffix with rfl | hsuffix
    . exact h
    . exact ih h.tail hsuffix

theorem replace (h : s.Path (frame :: below)) (hbody : frame'.body = frame.body)
    (hblock : frame.kind = .block → frame'.kind = .block)
    (hruns : ∀ instr : Instr R, instr.Runs frame.body frame.kind →
      instr.Runs frame.body frame'.kind)
    (hfits : frame'.Fits s) : s.Path (frame' :: below) := by
  cases h with
  | outermost hroot hkind =>
    apply Path.outermost
    . rw [hbody, hroot]
    . exact hblock hkind
    . exact hfits
  | inside h hnext hinstr hruns' =>
    apply Path.inside h hnext hinstr
    . rw [hbody]
      exact hruns _ hruns'
    . exact hfits

theorem movedOn {instr : Instr R} (h : s.Path (frame :: below))
    (hcheck : frame.checkPending = false) (hinstr : s.instr? frame.slot = some instr) :
    s.Path (frame.movedOn :: below) := by
  apply h.replace
  . rfl
  . exact id
  . exact fun _ hruns => hruns
  . have := (Array.getElem?_eq_some_iff.mp hinstr).1
    exact
      { next_le := this
        fresh := by
          intro hfresh
          exact absurd hfresh (by simp [Frame.movedOn, hcheck]) }

theorem passed (h : s.Path (frame :: below)) :
    s.Path ({ frame with checkPending := false } :: below) := by
  apply h.replace
  . rfl
  . exact id
  . exact fun _ hruns => hruns
  . exact
      { next_le := h.fits.next_le
        fresh := by simp }

theorem rewound (h : s.Path (frame :: below)) (hcheck : frame.checkPending = false)
    (hrewound : frame.rewound? = some frame') : s.Path (frame' :: below) := by
  obtain ⟨body, next, kind, checkPending⟩ := frame
  subst hcheck
  unfold Frame.rewound? at hrewound
  cases kind with
  | block => cases hrewound
  | loop kind =>
    cases kind with
    | times left =>
      dsimp only at hrewound
      split at hrewound
      . cases hrewound
      . next hleft =>
        cases hrewound
        apply h.replace
        . rfl
        . simp
        -- one iteration less is left, and it is still no more than the loop was to make
        . intro instr hruns
          cases hruns with
          | repeatTimes hpos hle => exact .repeatTimes (by omega) (by omega)
        . exact ⟨Nat.zero_le _, by simp⟩
    | forever =>
      cases hrewound
      exact h.replace rfl id (fun _ hruns => hruns) ⟨Nat.zero_le _, by simp⟩
    | untilTrue condition =>
      cases hrewound
      exact h.replace rfl id (fun _ hruns => hruns) ⟨Nat.zero_le _, fun _ => ⟨rfl, rfl⟩⟩
    | whileTrue condition =>
      cases hrewound
      exact h.replace rfl id (fun _ hruns => hruns) ⟨Nat.zero_le _, fun _ => ⟨rfl, rfl⟩⟩

end Script.Path

namespace Machine

def OnPath (m : Machine R) : Prop :=
  m.script.Path m.frames

theorem Executes.onPath {m m' : Machine R} {around : Surroundings R} {instr : Instr R}
    {frame : Frame} {below : List Frame} {flow : Flow} (h : m.Executes around instr flow m')
    (hpath : m.OnPath) (hframes : m.frames = frame.movedOn :: below)
    (hinstr : m.script.instr? frame.slot = some instr) :
    m'.OnPath ∧ m'.script = m.script := by
  cases h with
  | acts h =>
    next outcome =>
      cases outcome with
      | goesOn rig line => exact ⟨hpath, rfl⟩
      | moves rig => exact ⟨hpath, rfl⟩
      | sleeps seconds => exact ⟨hpath, rfl⟩
  | passes => exact ⟨hpath, rfl⟩
  | opens hruns hfresh =>
    refine ⟨?_, rfl⟩
    unfold OnPath at hpath ⊢
    dsimp only
    rw [hframes] at hpath ⊢
    exact .inside hpath rfl hinstr hruns hfresh.fits
  | waits => exact ⟨hpath, rfl⟩
  | breaks h => exact ⟨hpath.of_suffix (belowLoop?_suffix h), rfl⟩
  | stops => exact ⟨.empty, rfl⟩

end Machine

def Step.machine : Step R → Machine R
  | .next m => m
  | .halt m _ => m

namespace Machine

theorem onPath_step {m : Machine R} (around : Surroundings R) (hpath : m.OnPath) :
    (m.step around).machine.OnPath ∧ (m.step around).machine.script = m.script := by
  unfold OnPath at hpath
  generalize hstep : m.step around = step
  have htakes := takes_step m around
  rw [hstep] at htakes
  cases htakes with
  | done hframes => exact ⟨hpath, rfl⟩
  | passesTest hframes hcheck htest =>
    rw [hframes] at hpath
    exact ⟨hpath.passed, rfl⟩
  | leavesAtTest hframes hcheck htest =>
    rw [hframes] at hpath
    exact ⟨hpath.tail, rfl⟩
  | failsAtTest hframes hcheck htest =>
    rw [hframes] at hpath
    exact ⟨hpath.passed, rfl⟩
  | leaves hframes hcheck hinstr hrewound =>
    rw [hframes] at hpath
    exact ⟨hpath.tail, rfl⟩
  | turns hframes hcheck hinstr hrewound =>
    rw [hframes] at hpath
    exact ⟨hpath.rewound hcheck hrewound, rfl⟩
  | executes hframes hcheck hinstr h =>
    rw [hframes] at hpath
    exact h.onPath (hpath.movedOn hcheck hinstr) rfl hinstr
  | suspends hframes hcheck hinstr h =>
    rw [hframes] at hpath
    exact h.onPath (hpath.movedOn hcheck hinstr) rfl hinstr
  | stops hframes hcheck hinstr h =>
    rw [hframes] at hpath
    exact h.onPath (hpath.movedOn hcheck hinstr) rfl hinstr
  | fails hframes hcheck hinstr =>
    rw [hframes] at hpath
    exact ⟨hpath.movedOn hcheck hinstr, rfl⟩
  | breaksOut hframes hcheck hinstr => exact ⟨.empty, rfl⟩

theorem onPath_run {m : Machine R} (around : Surroundings R) (budget : Nat) (hpath : m.OnPath) :
    (run around budget m).1.OnPath ∧ (run around budget m).1.script = m.script := by
  induction budget generalizing m with
  | zero => exact ⟨hpath, rfl⟩
  | succ budget ih =>
    have hstep := onPath_step around hpath
    rw [run]
    split
    . next m' hnext =>
      rw [hnext] at hstep
      obtain ⟨hpath', hscript⟩ := ih hstep.1
      exact ⟨hpath', hscript.trans hstep.2⟩
    . next m' result hhalt =>
      rw [hhalt] at hstep
      exact hstep

theorem onPath_advance {m : Machine R} (around : Surroundings R) (dt : R) (hpath : m.OnPath) :
    (m.advance around dt).1.OnPath ∧ (m.advance around dt).1.script = m.script := by
  unfold advance
  dsimp only
  split
  . exact ⟨hpath, rfl⟩
  . split
    . exact ⟨hpath, rfl⟩
    . split
      . exact ⟨hpath, rfl⟩
      . exact ⟨hpath, rfl⟩
      . exact onPath_run around _ hpath

theorem onPath_handle {m : Machine R} (event : Event R) (hpath : m.OnPath) :
    (m.handle event).OnPath ∧ (m.handle event).script = m.script := by
  cases event with
  | cancel => exact ⟨hpath, rfl⟩
  | animate dt => exact ⟨hpath, rfl⟩
  | advance around dt => exact onPath_advance around dt hpath

theorem onPath_after {m : Machine R} (events : List (Event R)) (hpath : m.OnPath) :
    (m.after events).OnPath ∧ (m.after events).script = m.script := by
  induction events generalizing m with
  | nil => exact ⟨hpath, rfl⟩
  | cons event events ih =>
    obtain ⟨hpath', hscript⟩ := onPath_handle event hpath
    obtain ⟨hpath'', hscript'⟩ := ih hpath'
    exact ⟨hpath'', hscript'.trans hscript⟩

theorem onPath_launch (script : Script R) (robot : Robot R) : (launch script robot).OnPath :=
  .outermost rfl rfl ⟨Nat.zero_le _, by simp [Frame.block]⟩

end Machine

end ReefRover
