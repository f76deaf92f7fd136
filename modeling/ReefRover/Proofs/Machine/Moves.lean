import ReefRover.Proofs.Machine.Place

/-!
This module contains how the frames of a machine change within a timestep. As long as no loop goes
into its next iteration, each instruction leaves less to do, and a body that is in execution goes on
where it was.
-/

namespace ReefRover

variable {R : Type}

namespace Machine

def slot? (m : Machine R) : Option Slot :=
  match m.frames with
  | [] => none
  | frame :: _ =>
    if frame.checkPending = false ∧ (m.script.instr? frame.slot).isSome then some frame.slot
    else none

/-- Whether a step takes a loop into its next iteration. -/
def TurnsOver (m : Machine R) : Prop :=
  ∃ frame below frame', m.frames = frame :: below ∧ frame.checkPending = false ∧
    m.script.instr? frame.slot = none ∧ frame.rewound? = some frame'

theorem slot?_of_instr? {m : Machine R} {frame : Frame} {below : List Frame} {instr : Instr R}
    (hframes : m.frames = frame :: below) (hcheck : frame.checkPending = false)
    (hinstr : m.script.instr? frame.slot = some instr) : m.slot? = some frame.slot := by
  simp [slot?, hframes, hcheck, hinstr]

theorem slot?_eq_some {m : Machine R} {slot : Slot} (h : m.slot? = some slot) :
    ∃ frame below, m.frames = frame :: below ∧ frame.slot = slot ∧
      (m.script.instr? slot).isSome = true := by
  unfold slot? at h
  split at h
  . cases h
  . next frame below hframes =>
    split at h
    . next hif =>
      cases h
      exact ⟨frame, below, hframes, rfl, hif.2⟩
    . cases h

theorem length_slot?_le (m : Machine R) (htree : m.script.Tree) :
    m.slot?.toList.length ≤ m.script.load m.frames := by
  cases hslot : m.slot? with
  | none => exact Nat.zero_le _
  | some slot =>
    obtain ⟨frame, below, hframes, rfl, hinstr⟩ := slot?_eq_some hslot
    obtain ⟨instr, hinstr⟩ := Option.isSome_iff_exists.mp hinstr
    rw [hframes, Script.load_cons, Frame.rest_of_instr? htree hinstr, Program.size_cons]
    simp only [Option.toList_some, List.length_singleton, Op.size]
    omega

theorem filterMap_slot?_cons (m : Machine R) (states : List (Machine R)) :
    (m :: states).filterMap slot? = m.slot?.toList ++ states.filterMap slot? := by
  rw [List.filterMap_cons]
  cases m.slot? <;> rfl

end Machine

variable [Scalar R]

/-- How a step that takes no loop into its next iteration changes the frames. -/
inductive Script.Moves (s : Script R) : List Frame → Option Slot → List Frame → Prop where
  | stays : Moves s [] none []
  | passes {frame : Frame} {below : List Frame} (hcheck : frame.checkPending = true) :
    Moves s (frame :: below) none ({ frame with checkPending := false } :: below)
  | leaves {frame : Frame} {below : List Frame} : Moves s (frame :: below) none below
  | executes {frame : Frame} {below frames : List Frame} {instr : Instr R}
      (hinstr : s.instr? frame.slot = some instr) (hframes : frames <:+ frame.movedOn :: below) :
    Moves s (frame :: below) (some frame.slot) frames
  | opens {frame inner : Frame} {below : List Frame} {instr : Instr R}
      (hinstr : s.instr? frame.slot = some instr) (hruns : instr.Runs inner.body inner.kind)
      (hfresh : inner.isFresh) :
    Moves s (frame :: below) (some frame.slot) (inner :: frame.movedOn :: below)

namespace Machine

theorem Executes.moves {m m' : Machine R} {around : Surroundings R} {instr : Instr R}
    {frame : Frame} {below : List Frame} {flow : Flow} (h : m.Executes around instr flow m')
    (hframes : m.frames = frame.movedOn :: below)
    (hinstr : m.script.instr? frame.slot = some instr) :
    m.script.Moves (frame :: below) (some frame.slot) m'.frames := by
  cases h with
  | acts hperform =>
    next action outcome =>
      apply Script.Moves.executes hinstr
      rw [← hframes]
      cases outcome <;> exact List.suffix_rfl
  | passes => exact .executes hinstr ⟨[], hframes⟩
  | opens hruns hfresh =>
    dsimp only
    rw [hframes]
    exact .opens hinstr hruns hfresh
  | waits => exact .executes hinstr ⟨[], hframes⟩
  | breaks hbelow =>
    apply Script.Moves.executes hinstr
    rw [← hframes]
    exact belowLoop?_suffix hbelow
  | stops => exact .executes hinstr List.nil_suffix

theorem moves_step {m : Machine R} (around : Surroundings R) (hturns : ¬ m.TurnsOver) :
    m.script.Moves m.frames m.slot? (m.step around).machine.frames := by
  generalize hstep : m.step around = step
  have htakes := takes_step m around
  rw [hstep] at htakes
  cases htakes with
  | done hframes =>
    have hslot : m.slot? = none := by simp [slot?, hframes]
    rw [hslot]
    unfold Step.machine
    dsimp only
    rw [hframes]
    exact .stays
  | passesTest hframes hcheck htest =>
    have hslot : m.slot? = none := by simp [slot?, hframes, hcheck]
    rw [hslot, hframes]
    exact .passes hcheck
  | failsAtTest hframes hcheck htest =>
    have hslot : m.slot? = none := by simp [slot?, hframes, hcheck]
    rw [hslot, hframes]
    exact .passes hcheck
  | leavesAtTest hframes hcheck htest =>
    have hslot : m.slot? = none := by simp [slot?, hframes, hcheck]
    rw [hslot, hframes]
    exact .leaves
  | leaves hframes hcheck hinstr hrewound =>
    have hslot : m.slot? = none := by simp [slot?, hframes, hinstr]
    rw [hslot, hframes]
    exact .leaves
  | turns hframes hcheck hinstr hrewound =>
    exact absurd ⟨_, _, _, hframes, hcheck, hinstr, hrewound⟩ hturns
  | executes hframes hcheck hinstr h =>
    rw [slot?_of_instr? hframes hcheck hinstr, hframes]
    exact h.moves rfl hinstr
  | suspends hframes hcheck hinstr h =>
    rw [slot?_of_instr? hframes hcheck hinstr, hframes]
    exact h.moves rfl hinstr
  | stops hframes hcheck hinstr h =>
    rw [slot?_of_instr? hframes hcheck hinstr, hframes]
    exact h.moves rfl hinstr
  | fails hframes hcheck hinstr =>
    rw [slot?_of_instr? hframes hcheck hinstr, hframes]
    exact .executes hinstr List.suffix_rfl
  | breaksOut hframes hcheck hinstr =>
    rw [slot?_of_instr? hframes hcheck hinstr, hframes]
    exact .executes hinstr List.nil_suffix

end Machine

namespace Script.Moves

variable {s : Script R} {frames frames' : List Frame} {slot? : Option Slot}

theorem load_le (htree : s.Tree) (h : s.Moves frames slot? frames') :
    slot?.toList.length + s.load frames' ≤ s.load frames := by
  cases h with
  | stays => exact Nat.le_refl _
  | passes hcheck =>
    rw [load_cons, load_cons]
    exact Nat.le_of_eq (Nat.zero_add _)
  | leaves =>
    rw [load_cons]
    simp only [Option.toList_none, List.length_nil]
    omega
  | @executes frame below _ instr hinstr hsuffix =>
    have hle := load_le_of_suffix (s := s) hsuffix
    have hrest := Frame.rest_of_instr? htree hinstr
    rw [load_cons] at hle ⊢
    rw [hrest, Program.size_cons]
    simp only [Option.toList_some, List.length_singleton, Op.size]
    omega
  | @opens frame inner below instr hinstr hruns hfresh =>
    have hrest := Frame.rest_of_instr? htree hinstr
    have hlt := hruns.size_lt (s := s)
    have hinner := size_rest_le (s := s) inner
    rw [load_cons, load_cons, load_cons, hrest, Program.size_cons]
    simp only [Option.toList_some, List.length_singleton]
    omega

end Script.Moves

namespace Script

/--
Frames that others have come to without a loop going into its next iteration: no more is left, and
a body that was in execution before is so on the same behalf.
-/
structure Reaches (s : Script R) (frames frames' : List Frame) : Prop where
  path : s.Path frames'
  load_le : s.load frames' ≤ s.load frames
  kept : ∀ f ∈ frames, ∀ g ∈ frames', f.body = g.body →
    g.kind = f.kind ∧ (g.checkPending = true → f.checkPending = true)

namespace Reaches

variable {s : Script R} {frames frames' frames'' : List Frame} {slot? : Option Slot}

theorem refl (htree : s.Tree) (hpath : s.Path frames) : s.Reaches frames frames where
  path := hpath
  load_le := Nat.le_refl _
  kept := by
    intro f hf g hg hbody
    rw [hpath.eq_of_body_eq htree hf hg hbody]
    exact ⟨rfl, id⟩

theorem body_ne (htree : s.Tree) (hpath : s.Path frames) (h : s.Reaches frames frames')
    {frame inner : Frame} {instr : Instr R} (hmem : frame ∈ frames')
    (hinstr : s.instr? frame.slot = some instr) (hruns : instr.Runs inner.body inner.kind) :
    ∀ f ∈ frames, f.body ≠ inner.body := by
  -- the frame around `f` would be past the instruction that is executed only now
  intro f hf hbody
  obtain ⟨above, below, rfl⟩ := List.append_of_mem hf
  have hmem' := hruns.mem_bodies
  rw [← hbody] at hmem'
  obtain ⟨outer, rest, rfl, houter, hnext⟩ :=
    (hpath.of_suffix (List.suffix_append _ _)).outer_eq htree hinstr hmem'
  have hin : outer ∈ above ++ f :: outer :: rest := by simp
  have hle := hpath.next_le_of_load_le htree h.path h.load_le hin hmem houter
  rw [hnext] at hle
  exact absurd hle (Nat.not_succ_le_self _)

theorem moves (htree : s.Tree) (hpath : s.Path frames) (h : s.Reaches frames frames')
    (hmoves : s.Moves frames' slot? frames'') (hpath' : s.Path frames'') :
    s.Reaches frames frames'' where
  path := hpath'
  load_le := by
    have hle := hmoves.load_le htree
    have hle' := h.load_le
    omega
  kept := by
    cases hmoves with
    | stays => exact h.kept
    | @passes frame below hcheck =>
      intro f hf g hg hbody
      rcases List.mem_cons.mp hg with rfl | hg
      . exact ⟨(h.kept f hf frame List.mem_cons_self hbody).1, nofun⟩
      . exact h.kept f hf g (List.mem_cons_of_mem _ hg) hbody
    | leaves =>
      intro f hf g hg hbody
      exact h.kept f hf g (List.mem_cons_of_mem _ hg) hbody
    | @executes frame below _ instr hinstr hsuffix =>
      intro f hf g hg hbody
      rcases List.mem_cons.mp (hsuffix.subset hg) with rfl | hg
      . exact h.kept f hf frame List.mem_cons_self hbody
      . exact h.kept f hf g (List.mem_cons_of_mem _ hg) hbody
    | @opens frame inner below instr hinstr hruns hfresh =>
      intro f hf g hg hbody
      rcases List.mem_cons.mp hg with rfl | hg
      . exact absurd hbody (h.body_ne htree hpath List.mem_cons_self hinstr hruns f hf)
      . rcases List.mem_cons.mp hg with rfl | hg
        . exact h.kept f hf frame List.mem_cons_self hbody
        . exact h.kept f hf g (List.mem_cons_of_mem _ hg) hbody

end Reaches

end Script

end ReefRover
