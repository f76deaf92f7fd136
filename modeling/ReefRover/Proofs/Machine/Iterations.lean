import ReefRover.Proofs.Machine.History
import ReefRover.Proofs.Scalar.Count

/-!
This module contains the proof that counted loops run their exact count. As long as a loop is not
left, its frame stays on the stack above the same frames, and a step changes it only where it is the
innermost one. It then executes an instruction of the body, goes into the next iteration or leaves.
-/

namespace ReefRover

variable {R : Type}

def Frame.counted (body : BodyId) (left next : Nat) : Frame :=
  { body, next, kind := .loop (.times left) }

def Wait.isNextTick : Wait R → Bool
  | .nextTick => true
  | .nothing | .motion | .sleep _ | .poll .. => false

def Step.suspension? : Step R → Option (Wait R)
  | .halt m (.ok .pending) => some m.wait
  | .next _ | .halt _ (.ok .finished) | .halt _ (.ok .stopped) | .halt _ (.ok .cancelled)
  | .halt _ (.error _) => none

/-! A loop is told by the frames `base` below it. -/

namespace Moment

/-- The position in the loop's body of the instruction that is executed, if it is one of those. -/
def position? (base : List Frame) (a : Moment R) : Option Nat :=
  if a.machine.frames.tail = base then a.machine.slot?.map Slot.position else none

/-- Whether the loop itself suspends the program until the next timestep. -/
def suspends [Scalar R] (base : List Frame) (a : Moment R) : Bool :=
  decide (a.machine.frames.tail = base) && a.step.suspension?.any Wait.isNextTick

def Breaks (base : List Frame) (a : Moment R) : Prop :=
  a.instr? = some .breakLoop ∧ Machine.belowLoop? a.machine.frames = some base

instance [DecidableEq R] (base : List Frame) (a : Moment R) : Decidable (a.Breaks base) :=
  inferInstanceAs (Decidable (_ ∧ _))

variable {a : Moment R} {base : List Frame}

theorem position?_of_tail_ne (h : a.machine.frames.tail ≠ base) : a.position? base = none :=
  if_neg h

theorem suspends_of_tail_ne [Scalar R] (h : a.machine.frames.tail ≠ base) :
    a.suspends base = false := by
  unfold suspends
  rw [decide_eq_false h]
  rfl

theorem instr?_of_frames {frame : Frame} {rest : List Frame} {instr : Instr R}
    (hframes : a.machine.frames = frame :: rest) (hcheck : frame.checkPending = false)
    (hinstr : a.machine.script.instr? frame.slot = some instr) : a.instr? = some instr := by
  unfold instr?
  rw [Machine.slot?_of_instr? hframes hcheck hinstr]
  exact hinstr

theorem slot_of_instr? {frame : Frame} {rest : List Frame} {instr : Instr R}
    (hframes : a.machine.frames = frame :: rest) (h : a.instr? = some instr) :
    frame.checkPending = false ∧ a.machine.script.instr? frame.slot = some instr := by
  obtain ⟨slot, hslot, hinstr⟩ := Option.bind_eq_some_iff.mp h
  unfold Machine.slot? at hslot
  rw [hframes] at hslot
  dsimp only at hslot
  split at hslot
  . next hif =>
    cases hslot
    exact ⟨hif.1, hinstr⟩
  . cases hslot

end Moment

theorem Machine.belowLoop?_counted {above base below : List Frame} {body : BodyId}
    {left next : Nat}
    (h : belowLoop? (above ++ .counted body left next :: base) = some below) :
    (∃ above', below = above' ++ .counted body left next :: base) ∨ below = base := by
  induction above with
  | nil =>
    cases h
    exact .inr rfl
  | cons frame above ih =>
    rw [List.cons_append, belowLoop?] at h
    split at h
    . cases h
      exact .inl ⟨above, rfl⟩
    . exact ih h

theorem append_cons_ne {above base : List Frame} {loop : Frame} : above ++ loop :: base ≠ base := by
  intro h
  have hlength := congrArg List.length h
  simp only [List.length_append, List.length_cons] at hlength
  omega

variable [Scalar R]

namespace Machine

variable {m m' : Machine R} {around : Surroundings R} {instr : Instr R} {flow : Flow}
  {above base : List Frame} {body : BodyId} {left next : Nat}

theorem Executes.inside (h : m.Executes around instr flow m') (hflow : flow ≠ .stop)
    (hframes : m.frames = above ++ .counted body left next :: base) :
    (∃ above', m'.frames = above' ++ .counted body left next :: base) ∨
      instr = .breakLoop ∧ belowLoop? m.frames = some base := by
  cases h with
  | acts hperform =>
    next action outcome =>
      left
      cases outcome with
      | goesOn | moves | sleeps => exact ⟨above, hframes⟩
  | passes | waits => exact .inl ⟨above, hframes⟩
  | opens hruns hfresh =>
    left
    dsimp only
    rw [hframes]
    exact ⟨_ :: above, rfl⟩
  | breaks hbelow =>
    have haimed := hbelow
    rw [hframes] at haimed
    rcases belowLoop?_counted haimed with hinside | rfl
    . exact .inl hinside
    . exact .inr ⟨rfl, hbelow⟩
  | stops => exact absurd rfl hflow

theorem Executes.isNextTick_wait (h : m.Executes around instr .suspend m') :
    m'.wait.isNextTick = false := by
  rcases h.wait_of_suspend with hmotion | ⟨seconds, hsleep⟩ | ⟨condition, -, rfl⟩
  . rw [hmotion]
    rfl
  . rw [hsleep]
    rfl
  . rfl

theorem step_of_end {frame : Frame} {below : List Frame} (around : Surroundings R)
    (hframes : m.frames = frame :: below) (hcheck : frame.checkPending = false)
    (hinstr : m.script.instr? frame.slot = none) :
    m.step around =
      match frame.rewound? with
      | none => .next { m with frames := below }
      | some frame' =>
        .halt { m with frames := frame' :: below, wait := betweenIterations frame.kind }
          (.ok .pending) := by
  have hget : (m.script.body frame.body)[frame.next]? = none := hinstr
  simp only [step, hframes, hcheck, Bool.false_eq_true, if_false, hget]
  exact endBody_eq m frame below

end Machine

namespace Moment

variable {a b : Moment R} {frame : Frame} {rest above base : List Frame} {body : BodyId}
  {left next : Nat} {instr : Instr R}

theorem suspension?_of_instr? (hframes : a.machine.frames = frame :: rest)
    (hcheck : frame.checkPending = false)
    (hinstr : a.machine.script.instr? frame.slot = some instr) :
    a.step.suspension?.any Wait.isNextTick = false := by
  unfold step
  rw [Machine.step_of_instr? a.around hframes hcheck hinstr]
  split
  . rfl
  . next hexec => exact (Machine.executes_of_exec hexec).isNextTick_wait
  . rfl
  . rfl
  . rfl

namespace Follows

theorem of_instr? (h : a.Follows b) (hframes : a.machine.frames = frame :: rest)
    (hcheck : frame.checkPending = false)
    (hinstr : a.machine.script.instr? frame.slot = some instr)
    (hmoved : frame.movedOn :: rest = above ++ .counted body left next :: base) :
    (∃ above', b.machine.frames = above' ++ .counted body left next :: base) ∨ a.Breaks base := by
  have hstep : a.step = _ := Machine.step_of_instr? a.around hframes hcheck hinstr
  have hb := h.frames_eq
  have hinside : ∀ {flow m'}, Machine.Executes { a.machine with frames := frame.movedOn :: rest }
      a.around instr flow m' → flow ≠ .stop → b.machine.frames = m'.frames →
      (∃ above', b.machine.frames = above' ++ .counted body left next :: base) ∨
        a.Breaks base := by
    intro flow m' hexecutes hflow hsame
    rcases hexecutes.inside hflow hmoved with ⟨above', hm'⟩ | ⟨rfl, haimed⟩
    . exact .inl ⟨above', hsame.trans hm'⟩
    . refine .inr ⟨instr?_of_frames hframes hcheck hinstr, ?_⟩
      rw [hframes]
      exact haimed
  split at hstep
  . next hexec =>
    rw [hstep] at hb
    exact hinside (Machine.executes_of_exec hexec) nofun hb
  . next hexec =>
    rw [hstep] at hb
    exact hinside (Machine.executes_of_exec hexec) nofun hb
  . next hexec =>
    refine absurd ?_ (h.goes hstep)
    rw [(Machine.executes_of_exec hexec).eq_of_stop]
  . exact absurd rfl (h.goes hstep)
  . rw [hstep] at hb
    exact .inl ⟨above, hb.trans hmoved⟩

theorem of_inner (h : a.Follows b)
    (hframes : a.machine.frames = frame :: above ++ .counted body left next :: base) :
    (∃ above', b.machine.frames = above' ++ .counted body left next :: base) ∨ a.Breaks base := by
  have hb := h.frames_eq
  have hframes' : a.machine.frames = frame :: (above ++ .counted body left next :: base) := hframes
  cases hcheck : frame.checkPending with
  | true =>
    have hstep : a.step = _ := Machine.step_of_checkPending a.around hframes' hcheck
    left
    split at hstep
    . rw [hstep] at hb
      exact ⟨_ :: above, hb⟩
    . rw [hstep] at hb
      exact ⟨above, hb⟩
    . rw [hstep] at hb
      exact ⟨_ :: above, hb⟩
  | false =>
    cases hinstr : a.machine.script.instr? frame.slot with
    | some instr =>
      have hmoved : frame.movedOn :: (above ++ .counted body left next :: base) =
          (frame.movedOn :: above) ++ .counted body left next :: base := rfl
      exact h.of_instr? hframes' hcheck hinstr hmoved
    | none =>
      have hstep : a.step = _ := Machine.step_of_end a.around hframes' hcheck hinstr
      left
      split at hstep
      . rw [hstep] at hb
        exact ⟨above, hb⟩
      . rw [hstep] at hb
        exact ⟨_ :: above, hb⟩

end Follows

inductive Proceeds (a b : Moment R) (s : Script R) (body : BodyId) (base : List Frame)
    (left next : Nat) : Prop where
  | executes (hposition : a.position? base = some next) (hsuspends : a.suspends base = false)
      (hnext : next < (s.body body).size) {above : List Frame}
      (hframes : b.machine.frames = above ++ .counted body left (next + 1) :: base)
  | turns (hposition : a.position? base = none) (hsuspends : a.suspends base = true)
      (hnext : next = (s.body body).size) (hleft : 1 < left)
      (hframes : b.machine.frames = .counted body (left - 1) 0 :: base)
  | leaves (hposition : a.position? base = none) (hsuspends : a.suspends base = false)
      (hnext : next = (s.body body).size) (hleft : left ≤ 1)
      (hstep : a.step = .next b.machine) (htick : b.tick = a.tick)
      (hframes : b.machine.frames = base)

theorem Follows.proceeds (h : a.Follows b)
    (hframes : a.machine.frames = .counted body left next :: base)
    (hnext : next ≤ (a.machine.script.body body).size) (hbreaks : ¬ a.Breaks base) :
    a.Proceeds b a.machine.script body base left next := by
  have htail : a.machine.frames.tail = base := by rw [hframes]; rfl
  have hslot : (Frame.counted body left next).slot = ⟨body, next⟩ := rfl
  cases hinstr : a.machine.script.instr? ⟨body, next⟩ with
  | some instr =>
    have hlt : next < (a.machine.script.body body).size :=
      (Array.getElem?_eq_some_iff.mp hinstr).1
    have hposition : a.position? base = some next := by
      unfold position?
      rw [if_pos htail, Machine.slot?_of_instr? hframes rfl hinstr]
      rfl
    have hsuspends : a.suspends base = false := by
      unfold suspends
      rw [suspension?_of_instr? hframes rfl hinstr, Bool.and_false]
    have hmoved : (Frame.counted body left next).movedOn :: base =
        [] ++ .counted body left (next + 1) :: base := rfl
    have hgoes := h.of_instr? hframes rfl hinstr hmoved
    obtain ⟨above', hb⟩ := hgoes.resolve_right hbreaks
    exact .executes hposition hsuspends hlt hb
  | none =>
    have hge : (a.machine.script.body body).size ≤ next := Array.getElem?_eq_none_iff.mp hinstr
    have hend : next = (a.machine.script.body body).size := Nat.le_antisymm hnext hge
    have hposition : a.position? base = none := by
      unfold position?
      rw [if_pos htail]
      simp [Machine.slot?, hframes, hslot, hinstr]
    have hstep : a.step = _ := Machine.step_of_end a.around hframes rfl hinstr
    have hb := h.frames_eq
    have hsuspension : a.suspends base = a.step.suspension?.any Wait.isNextTick := by
      unfold suspends
      rw [decide_eq_true htail, Bool.true_and]
    by_cases hleft : left ≤ 1
    . have hrewound : (Frame.counted body left next).rewound? = none := if_pos hleft
      rw [hrewound] at hstep
      dsimp only at hstep
      obtain ⟨hmachine, htick⟩ := h.within_of_next hstep
      rw [hstep] at hb hsuspension
      refine .leaves hposition hsuspension hend hleft ?_ htick hb
      rw [hstep, hmachine]
    . have hrewound : (Frame.counted body left next).rewound? =
          some (.counted body (left - 1) 0) := if_neg hleft
      rw [hrewound] at hstep
      dsimp only at hstep
      rw [hstep] at hb hsuspension
      exact .turns hposition hsuspension hend (Nat.lt_of_not_le hleft) hb

end Moment

/-! ### Iterations -/

/-- An iteration from some position in the loop's body up to the end of the body. -/
structure PassFrom (s : Script R) (body : BodyId) (base : List Frame) (left next : Nat)
    (moments : List (Moment R)) : Prop where
  inside : ∀ a ∈ moments, ∃ above position,
    a.machine.frames = above ++ .counted body left position :: base
  executed : moments.filterMap (Moment.position? base) =
    List.range' next ((s.body body).size - next)
  suspended : moments.countP (Moment.suspends base) = if left ≤ 1 then 0 else 1
  ends : ∃ a ∈ moments.getLast?,
    a.machine.frames = .counted body left (s.body body).size :: base

/-- A whole iteration, with so many left, itself included. -/
structure Pass (s : Script R) (body : BodyId) (base : List Frame) (left : Nat)
    (moments : List (Moment R)) : Prop extends PassFrom s body base left 0 moments where
  begins : ∃ a ∈ moments.head?, a.machine.frames = .counted body left 0 :: base

/-- All iterations that are left, down to the last one. -/
inductive Countdown (s : Script R) (body : BodyId) (base : List Frame) :
    Nat → List (List (Moment R)) → Prop where
  | finished : Countdown s body base 0 []
  | pass {left : Nat} {moments : List (Moment R)} {passes : List (List (Moment R))}
      (hpass : Pass s body base (left + 1) moments) (hrest : Countdown s body base left passes) :
    Countdown s body base (left + 1) (moments :: passes)

section Passes

variable {s : Script R} {body : BodyId} {base : List Frame} {left next : Nat}
  {moments : List (Moment R)} {passes : List (List (Moment R))} {a : Moment R}

theorem Countdown.length_eq (h : Countdown s body base left passes) : passes.length = left := by
  induction h with
  | finished => rfl
  | pass hpass hrest ih => exact congrArg Nat.succ ih

theorem Countdown.countP_suspends (h : Countdown s body base left passes) :
    passes.flatten.countP (Moment.suspends base) = left - 1 := by
  induction h with
  | finished => rfl
  | @pass left moments passes hpass hrest ih =>
    rw [List.flatten_cons, List.countP_append, ih, hpass.suspended]
    split
    . omega
    . omega

namespace PassFrom

theorem inner (h : PassFrom s body base left next moments) {frame : Frame} {above : List Frame}
    (hframes : a.machine.frames = frame :: above ++ .counted body left next :: base) :
    PassFrom s body base left next (a :: moments) := by
  have htail : a.machine.frames.tail ≠ base := by
    rw [hframes]
    exact append_cons_ne
  obtain ⟨last, hlast, hend⟩ := h.ends
  exact
    { inside := List.forall_mem_cons.mpr ⟨⟨_, _, hframes⟩, h.inside⟩
      executed := by
        rw [List.filterMap_cons, Moment.position?_of_tail_ne htail]
        exact h.executed
      suspended := by
        rw [List.countP_cons, Moment.suspends_of_tail_ne htail]
        exact h.suspended
      ends := ⟨last, List.mem_getLast?_cons hlast, hend⟩ }

theorem executes (h : PassFrom s body base left (next + 1) moments)
    (hframes : a.machine.frames = .counted body left next :: base)
    (hposition : a.position? base = some next) (hsuspends : a.suspends base = false)
    (hnext : next < (s.body body).size) : PassFrom s body base left next (a :: moments) := by
  obtain ⟨last, hlast, hend⟩ := h.ends
  have hlength : (s.body body).size - next = (s.body body).size - (next + 1) + 1 := by omega
  exact
    { inside := List.forall_mem_cons.mpr ⟨⟨[], next, hframes⟩, h.inside⟩
      executed := by
        rw [List.filterMap_cons, hposition, hlength, List.range'_succ, h.executed]
      suspended := by
        rw [List.countP_cons, hsuspends]
        exact h.suspended
      ends := ⟨last, List.mem_getLast?_cons hlast, hend⟩ }

theorem singleton (hframes : a.machine.frames = .counted body left next :: base)
    (hposition : a.position? base = none) (hsuspends : a.suspends base = decide (1 < left))
    (hnext : next = (s.body body).size) : PassFrom s body base left next [a] where
  inside := by
    intro b hb
    obtain rfl := List.mem_singleton.mp hb
    exact ⟨[], next, hframes⟩
  executed := by
    rw [List.filterMap_cons, hposition, hnext, Nat.sub_self]
    rfl
  suspended := by
    rw [List.countP_cons, hsuspends]
    by_cases hleft : left ≤ 1
    . simp [hleft, Nat.not_lt.mpr hleft]
    . simp [hleft, Nat.lt_of_not_le hleft]
  ends := by
    refine ⟨a, rfl, ?_⟩
    rw [← hnext]
    exact hframes

end PassFrom

end Passes

structure CountsDown (s : Script R) (body : BodyId) (base : List Frame) (left next : Nat)
    (a : Moment R) (between : List (Moment R)) (leave : Moment R) : Prop where
  passes : ∃ first passes, between = first ++ passes.flatten ∧
    PassFrom s body base left next (a :: first) ∧ Countdown s body base (left - 1) passes
  leaves : ∃ last ∈ (a :: between).getLast?, last.step = .next leave.machine ∧
    leave.tick = last.tick

namespace CountsDown

variable {s : Script R} {body : BodyId} {base : List Frame} {left next next' : Nat}
  {a b leave : Moment R} {between : List (Moment R)}

theorem cons (h : CountsDown s body base left next' b between leave)
    (hpass : ∀ moments, PassFrom s body base left next' (b :: moments) →
      PassFrom s body base left next (a :: b :: moments)) :
    CountsDown s body base left next a (b :: between) leave := by
  obtain ⟨first, passes, rfl, hfirst, hpasses⟩ := h.passes
  obtain ⟨last, hlast, hleaves⟩ := h.leaves
  exact
    { passes := ⟨b :: first, passes, rfl, hpass first hfirst, hpasses⟩
      leaves := ⟨last, List.mem_getLast?_cons hlast, hleaves⟩ }

theorem turn (h : CountsDown s body base (left - 1) 0 b between leave)
    (hpass : PassFrom s body base left next [a]) (hleft : 1 < left)
    (hframes : b.machine.frames = .counted body (left - 1) 0 :: base) :
    CountsDown s body base left next a (b :: between) leave := by
  obtain ⟨first, passes, rfl, hfirst, hpasses⟩ := h.passes
  obtain ⟨last, hlast, hleaves⟩ := h.leaves
  have hbegun : Pass s body base (left - 1) (b :: first) := ⟨hfirst, b, rfl, hframes⟩
  obtain ⟨n, hn⟩ : ∃ n, left - 1 = n + 1 := ⟨left - 2, by omega⟩
  rw [hn] at hbegun hpasses
  refine ⟨⟨[], (b :: first) :: passes, rfl, hpass, ?_⟩, last, List.mem_getLast?_cons hlast, hleaves⟩
  rw [hn]
  exact .pass hbegun hpasses

end CountsDown

theorem countsDown {s : Script R} {body : BodyId} {base : List Frame} {leave : Moment R}
    (hleave : leave.machine.frames = base) (between : List (Moment R)) {a : Moment R}
    {above : List Frame} {left next : Nat}
    (hchain : (a :: (between ++ [leave])).IsChain Moment.Follows) (hscript : a.machine.script = s)
    (hframes : a.machine.frames = above ++ .counted body left next :: base)
    (hnext : next ≤ (s.body body).size) (hleft : 1 ≤ left)
    (hinside : ∀ b ∈ between, b.machine.frames ≠ base)
    (hbreaks : ∀ b ∈ a :: between, ¬ b.Breaks base) :
    CountsDown s body base left next a between leave := by
  have hbreaks' : ¬ a.Breaks base := hbreaks a List.mem_cons_self
  subst hscript
  -- each moment is one of the loop's own, or one of a body further inside
  induction between generalizing a above left next with
  | nil =>
    have hfollows : a.Follows leave := (List.isChain_cons_cons.mp hchain).1
    cases above with
    | cons frame above =>
      obtain ⟨above', hstays⟩ := (hfollows.of_inner hframes).resolve_right hbreaks'
      exact absurd (hstays.symm.trans hleave) append_cons_ne
    | nil =>
      cases hfollows.proceeds hframes hnext hbreaks' with
      | executes hposition hsuspends hlt hstays =>
        exact absurd (hstays.symm.trans hleave) append_cons_ne
      | turns hposition hsuspends hend hmore hturns =>
        exact absurd (hturns.symm.trans hleave) (List.cons_ne_self _ _)
      | leaves hposition hsuspends hend hlast hstep htick hleaves =>
        have hsingle : a.suspends base = decide (1 < left) := by
          rw [hsuspends, decide_eq_false (Nat.not_lt.mpr hlast)]
        obtain rfl : left = 1 := Nat.le_antisymm hlast hleft
        exact ⟨⟨[], [], rfl, .singleton hframes hposition hsingle hend, .finished⟩,
          a, rfl, hstep, htick⟩
  | cons b between ih =>
    obtain ⟨hfollows, hchain'⟩ := List.isChain_cons_cons.mp hchain
    obtain ⟨hb, hinside'⟩ := List.forall_mem_cons.mp hinside
    have hrest : ∀ d ∈ b :: between, ¬ d.Breaks base :=
      fun d hd => hbreaks d (List.mem_cons_of_mem _ hd)
    have hscript := hfollows.script_eq
    rw [← hscript] at hnext ⊢
    have hgoesOn : ∀ {above left next}, next ≤ (b.machine.script.body body).size → 1 ≤ left →
        b.machine.frames = above ++ .counted body left next :: base →
        CountsDown b.machine.script body base left next b between leave :=
      fun hnext hleft hstays => ih hchain' hstays hleft hinside' hrest
        (hrest b List.mem_cons_self) hnext
    cases above with
    | cons frame above =>
      obtain ⟨above', hstays⟩ := (hfollows.of_inner hframes).resolve_right hbreaks'
      exact (hgoesOn hnext hleft hstays).cons fun moments hpass => hpass.inner hframes
    | nil =>
      have hproceeds := hfollows.proceeds hframes (hscript ▸ hnext) hbreaks'
      rw [← hscript] at hproceeds
      cases hproceeds with
      | executes hposition hsuspends hlt hstays =>
        exact (hgoesOn hlt hleft hstays).cons fun moments hpass =>
          hpass.executes hframes hposition hsuspends hlt
      | turns hposition hsuspends hend hmore hturns =>
        have hsingle : a.suspends base = decide (1 < left) := by
          rw [hsuspends, decide_eq_true hmore]
        have hdown := hgoesOn (Nat.zero_le _) (by omega) (hturns.trans (List.nil_append _).symm)
        exact hdown.turn (.singleton hframes hposition hsingle hend) hmore hturns
      | leaves hposition hsuspends hend hlast hstep htick hleaves => exact absurd hleaves hb

/-! ### Counted loops -/

namespace Moment

variable {enter b : Moment R} {frame : Frame} {below : List Frame} {times : Option R}
  {body : BodyId}

theorem step_of_repeatTimes (hframes : enter.machine.frames = frame :: below)
    (hinstr : enter.instr? = some (.repeatTimes times body)) :
    let base := frame.movedOn :: below
    let t := times.getD Tuning.defaultRepeat
    enter.step =
      if Scalar.isFinite t then
        if Scalar.count t = 0 then .next { enter.machine with frames := base }
        else .next { enter.machine with frames := .counted body (Scalar.count t) 0 :: base }
      else
        .halt { enter.machine with frames := base }
          (.error (.nonFinite "repeatTimes" "times" t)) := by
  intro base t
  obtain ⟨hcheck, hinstr⟩ := slot_of_instr? hframes hinstr
  unfold step
  rw [Machine.step_of_instr? enter.around hframes hcheck hinstr]
  have hexec : ({ enter.machine with frames := base } : Machine R).exec enter.around
      (.repeatTimes times body) =
        (Machine.finite "repeatTimes" "times" t >>= fun t =>
          if Scalar.count t = 0 then .ok (.next, { enter.machine with frames := base })
          else .ok (.next,
            { enter.machine with frames := .counted body (Scalar.count t) 0 :: base })) := by
    unfold Machine.exec
    dsimp only
    congr 1
    funext t
    split
    . rfl
    . rfl
  rw [hexec]
  unfold Machine.finite
  by_cases hfinite : Scalar.isFinite t = true
  . by_cases hcount : Scalar.count t = 0
    . simp only [hfinite, hcount, if_true, bind, Except.bind]
    . simp only [hfinite, hcount, if_true, if_false, bind, Except.bind]
  . simp only [hfinite, bind, Except.bind]
    rfl

theorem exists_countdown {leave : Moment R} {between : List (Moment R)}
    (hframes : enter.machine.frames = frame :: below)
    (hinstr : enter.instr? = some (.repeatTimes times body))
    (hfinite : Scalar.isFinite (times.getD Tuning.defaultRepeat) = true)
    (hchain : (enter :: (between ++ [leave])).IsChain Follows)
    (hleave : leave.machine.frames = frame.movedOn :: below)
    (hinside : ∀ a ∈ between, a.machine.frames ≠ frame.movedOn :: below)
    (hbreaks : ∀ a ∈ between, ¬ a.Breaks (frame.movedOn :: below)) :
    ∃ passes, Countdown enter.machine.script body (frame.movedOn :: below)
        (Scalar.count (times.getD Tuning.defaultRepeat)) passes ∧
      between = passes.flatten ∧
      ∃ last ∈ (enter :: between).getLast?, last.step = .next leave.machine ∧
        leave.tick = last.tick := by
  have hstep := step_of_repeatTimes hframes hinstr
  dsimp only at hstep
  rw [if_pos hfinite] at hstep
  by_cases hcount : Scalar.count (times.getD Tuning.defaultRepeat) = 0
  . rw [if_pos hcount] at hstep
    rw [hcount]
    cases between with
    | nil =>
      have hfollows : enter.Follows leave := (List.isChain_cons_cons.mp hchain).1
      obtain ⟨hmachine, htick⟩ := hfollows.within_of_next hstep
      exact ⟨[], .finished, rfl, enter, rfl, by rw [hstep, hmachine], htick⟩
    | cons b between =>
      have hfollows : enter.Follows b := (List.isChain_cons_cons.mp hchain).1
      obtain ⟨hmachine, -⟩ := hfollows.within_of_next hstep
      exact absurd (congrArg (fun m : Machine R => m.frames) hmachine)
        (hinside b List.mem_cons_self)
  . rw [if_neg hcount] at hstep
    cases between with
    | nil =>
      have hfollows : enter.Follows leave := (List.isChain_cons_cons.mp hchain).1
      obtain ⟨hmachine, -⟩ := hfollows.within_of_next hstep
      rw [hmachine] at hleave
      exact absurd hleave (List.cons_ne_self _ _)
    | cons b between =>
      obtain ⟨hfollows, hchain'⟩ := List.isChain_cons_cons.mp hchain
      obtain ⟨hmachine, -⟩ := hfollows.within_of_next hstep
      have hbegins : b.machine.frames = .counted body
          (Scalar.count (times.getD Tuning.defaultRepeat)) 0 :: frame.movedOn :: below :=
        congrArg (fun m : Machine R => m.frames) hmachine
      have hdown := countsDown hleave between hchain' hfollows.script_eq
        (hbegins.trans (List.nil_append _).symm) (Nat.zero_le _) (Nat.pos_of_ne_zero hcount)
        (fun a ha => hinside a (List.mem_cons_of_mem _ ha)) hbreaks
      obtain ⟨first, passes, rfl, hfirst, hpasses⟩ := hdown.passes
      obtain ⟨last, hlast, hleaves⟩ := hdown.leaves
      obtain ⟨n, hn⟩ := Nat.exists_eq_succ_of_ne_zero hcount
      rw [hn] at hfirst hpasses hbegins
      refine ⟨(b :: first) :: passes, ?_, rfl, last, List.mem_getLast?_cons hlast, hleaves⟩
      rw [hn]
      exact .pass ⟨hfirst, b, rfl, hbegins⟩ hpasses

end Moment

open Floating in
/--
A counted loop that is left other than by a `break` has executed its body from the first instruction
to the end, as many times as its count says, and has suspended the program between any two of its
iterations and not otherwise. The program goes on behind it in the timestep in which the last
iteration ends. A loop whose count is not finite fails before its first iteration.
-/
theorem Machine.counted_loop_runs_count (p : Program Float32) (robot : Robot Float32)
    (events : List (Event Float32)) (enter leave : Moment Float32)
    (before between after : List (Moment Float32)) (frame : Frame) (below : List Frame)
    (times : Option Float32) (body : BodyId) :
    let s := Script.ofProgram p
    let moments := history 0 (launch s robot) events
    let base := frame.movedOn :: below
    let t := times.getD 10
    let k := if toReal t < 1 then 0 else min ⌊toReal t⌋₊ (2 ^ 32 - 1)
    enter ∈ moments → enter.machine.frames = frame :: below →
      enter.instr? = some (.repeatTimes times body) →
    (Scalar.isFinite t = false →
      enter.step = .halt { enter.machine with frames := base }
        (.error (.nonFinite "repeatTimes" "times" t))) ∧
    (Scalar.isFinite t = true → moments = before ++ enter :: (between ++ leave :: after) →
      leave.machine.frames = base →
      (∀ a ∈ between, a.machine.frames ≠ base) → (∀ a ∈ between, ¬ a.Breaks base) →
      ∃ passes, Countdown s body base k passes ∧ between = passes.flatten ∧ passes.length = k ∧
        between.countP (Moment.suspends base) = k - 1 ∧
        ∃ last ∈ (enter :: between).getLast?, last.step = .next leave.machine ∧
          leave.tick = last.tick) := by
  intro s moments base t k hmem hframes hinstr
  have hlaunched := runs_launch p robot
  have hdefault : times.getD (Tuning.defaultRepeat : Float32) = t := rfl
  have hstep := Moment.step_of_repeatTimes hframes hinstr
  dsimp only at hstep
  rw [hdefault] at hstep
  constructor
  . intro hfinite
    rw [hfinite] at hstep
    exact hstep
  . intro hfinite hhistory hleave hinside hbreaks
    have hscript : enter.machine.script = s :=
      (hlaunched.runs_of_mem_history 0 events enter hmem).script_eq
    have hcount : Scalar.count t = k := Single.count_eq_of_finite hfinite
    have hchain : moments.IsChain Moment.Follows := hlaunched.isChain_history 0 events
    have hparts : moments = before ++ ((enter :: (between ++ [leave])) ++ after) := by
      rw [hhistory]
      simp
    rw [hparts] at hchain
    obtain ⟨passes, hpasses, hflatten, hlast⟩ := Moment.exists_countdown hframes hinstr hfinite
      hchain.right_of_append.left_of_append hleave hinside hbreaks
    rw [hdefault, hcount, hscript] at hpasses
    refine ⟨passes, hpasses, hflatten, hpasses.length_eq, ?_, hlast⟩
    rw [hflatten]
    exact hpasses.countP_suspends

open Floating in
theorem Machine.counted_loop_runs_twice :
    let p : Program Float32 := [.repeatTimes (some 2) [.forever [.breakLoop]], .print "done"]
    let moments := history 0 (launch (Script.ofProgram p) (.atRest ⟨200, 200⟩))
      [.advance ⟨1, 0⟩ 0, .advance ⟨1, 0⟩ 0]
    let base : List Frame := [(Frame.block Script.root).movedOn]
    ∃ enter between leave after, moments = enter :: (between ++ leave :: after) ∧
      enter.instr? = some (.repeatTimes (some 2) ⟨1⟩) ∧
      enter.machine.frames = [.block Script.root] ∧ leave.machine.frames = base ∧
      (∀ a ∈ between, a.machine.frames ≠ base) ∧ (∀ a ∈ between, ¬ a.Breaks base) ∧
      ∃ passes : List (List (Moment Float32)), between = passes.flatten ∧ passes.length = 2 ∧
        between.countP (Moment.suspends base) = 1 ∧
        ∃ enter ∈ history 0 (launch (Script.ofProgram [.repeatTimes (some (1 / 0)) []])
          (.atRest ⟨200, 200⟩)) [.advance ⟨1, 0⟩ 0],
            enter.step = .halt { enter.machine with frames := base }
              (.error (.nonFinite "repeatTimes" "times" (1 / 0 : Float32))) := by
  intro p moments base
  let between := (moments.drop 1).take 6
  have hstates : ∃ enter ∈ moments[0]?, ∃ leave ∈ moments[7]?,
      enter.instr? = some (.repeatTimes (some 2) ⟨1⟩) ∧
      enter.machine.frames = [.block Script.root] ∧ leave.machine.frames = base ∧
      (∀ a ∈ between, a.machine.frames ≠ base) ∧ ∀ a ∈ between, ¬ a.Breaks base := by
    decide +kernel
  obtain ⟨enter, henter, leave, hleave', hinstr, hframes, hleave, hinside, hbreaks⟩ := hstates
  obtain ⟨hzero, rfl⟩ := List.getElem?_eq_some_iff.mp henter
  obtain ⟨hseven, rfl⟩ := List.getElem?_eq_some_iff.mp hleave'
  have hmoments : moments = moments[0] :: (between ++ moments[7] :: moments.drop 8) := by
    rw [← List.drop_eq_getElem_cons hseven, ← List.drop_drop (i := 6) (j := 1),
      List.take_append_drop, ← List.drop_eq_getElem_cons hzero, List.drop_zero]
  have hcount : (if toReal (2 : Float32) < 1 then 0
      else min ⌊toReal (2 : Float32)⌋₊ (2 ^ 32 - 1)) = 2 := by
    rw [← Single.count_eq_of_finite (by decide)]
    decide
  obtain ⟨-, hruns⟩ := counted_loop_runs_count p (.atRest ⟨200, 200⟩)
    [.advance ⟨1, 0⟩ 0, .advance ⟨1, 0⟩ 0] _ _ [] between (moments.drop 8)
    (.block Script.root) [] (some 2) ⟨1⟩ (List.getElem_mem hzero) hframes hinstr
  obtain ⟨passes, -, hflatten, hpasses, hsuspends, -⟩ :=
    hruns (by decide) hmoments hleave hinside hbreaks
  rw [Option.getD_some, hcount] at hpasses hsuspends
  have hfailing : ∃ enter ∈ history 0 (launch (Script.ofProgram [.repeatTimes (some (1 / 0)) []])
      (.atRest ⟨200, 200⟩)) [.advance ⟨1, 0⟩ 0],
        enter.machine.frames = [.block Script.root] ∧
        enter.instr? = some (.repeatTimes (some (1 / 0 : Float32)) ⟨1⟩) := by
    decide +kernel
  obtain ⟨failing, hmem, hframes', hinstr'⟩ := hfailing
  obtain ⟨hfails, -⟩ := counted_loop_runs_count _ (.atRest ⟨200, 200⟩) [.advance ⟨1, 0⟩ 0] failing
    failing [] [] [] (.block Script.root) [] (some (1 / 0)) ⟨1⟩ hmem hframes' hinstr'
  exact ⟨_, between, _, moments.drop 8, hmoments, hinstr, hframes, hleave, hinside, hbreaks,
    passes, hflatten, hpasses, hsuspends, failing, hmem, hfails (by decide +kernel)⟩

end ReefRover
