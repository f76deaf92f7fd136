import ReefRover.Proofs.Machine.Timer
import ReefRover.Proofs.Machine.Iterations
import ReefRover.Proofs.Machine.Nesting
import ReefRover.Proofs.Scalar.Durations

/-!
This module contains how long programs wait, in exact arithmetic. A wait, the pause of a `forever`
loop and the time between two looks at a condition are timers that start where the program is
suspended, and the program goes on from there when its timer is over.
-/

namespace ReefRover

variable {R : Type} [Scalar R]

def Instr.pause? : Instr R → Option R
  | .action (.wait seconds) | .action (.setDriveTimeout seconds) =>
    some (seconds.getD Tuning.defaultWait)
  | _ => none

namespace Machine

/-- Whether the program takes a step in a timestep. -/
def GoesOn (m : Machine R) (around : Surroundings R) (dt : R) : Prop :=
  m.stepped around dt ≠ []

/-- Whether a timestep looks at the condition that the program waits for. -/
def Looks (m : Machine R) (_ : Surroundings R) (dt : R) : Prop :=
  m.cancelled = false ∧ m.frames ≠ [] ∧
    ∃ condition left, m.wait = .poll condition left ∧ ¬ Tuning.timeTolerance < left - dt

variable {m m' t : Machine R} {around : Surroundings R} {dt : R} {frame : Frame}
  {below : List Frame} {states : List (Machine R)} {result : Except (ExecutionError R) Progress}
  {wait : Wait R} {p : Program R}

/-! ### Timesteps of programs that wait -/

omit [Scalar R] in
theorem isDone_eq_false (h : m.frames ≠ []) : m.isDone = false := by
  unfold isDone
  rw [List.isEmpty_eq_false_iff]
  exact h

theorem advance_of_serve (hcancelled : m.cancelled = false) (hframes : m.frames ≠ [])
    (hserve : m.serve around dt = .ok (some wait)) :
    m.stepped around dt = [] ∧
      m.advance around dt = ({ m with console := #[], wait }, .ok .pending) := by
  have hdone : { m with console := #[] }.isDone = false := isDone_eq_false hframes
  have hserve : { m with console := #[] }.serve around dt = .ok (some wait) := hserve
  constructor
  . unfold stepped
    dsimp only
    rw [hcancelled, hdone, hserve]
    rfl
  . unfold advance
    dsimp only
    rw [hcancelled, hdone, hserve]
    rfl

theorem handle_of_serve (hcancelled : m.cancelled = false) (hframes : m.frames ≠ [])
    (hserve : m.serve around dt = .ok (some wait)) :
    m.stepped around dt = [] ∧
      m.handle (.advance around dt) = { m with console := #[], wait } := by
  obtain ⟨hstepped, hadvance⟩ := advance_of_serve hcancelled hframes hserve
  exact ⟨hstepped, congrArg Prod.fst hadvance⟩

theorem advance_of_serve_error {e : ExecutionError R} (hcancelled : m.cancelled = false)
    (hframes : m.frames ≠ []) (hserve : m.serve around dt = .error e) :
    m.stepped around dt = [] ∧ m.advance around dt = ({ m with console := #[] }, .error e) := by
  have hdone : { m with console := #[] }.isDone = false := isDone_eq_false hframes
  have hserve : { m with console := #[] }.serve around dt = .error e := hserve
  constructor
  . unfold stepped
    dsimp only
    rw [hcancelled, hdone, hserve]
    rfl
  . unfold advance
    dsimp only
    rw [hcancelled, hdone, hserve]
    rfl

theorem stepped_of_serve (hcancelled : m.cancelled = false) (hframes : m.frames ≠ [])
    (hserve : m.serve around dt = .ok none) :
    m.stepped around dt = trace around m.budget { m with console := #[], wait := .nothing } ∧
      m.handle (.advance around dt) =
        (run around m.budget { m with console := #[], wait := .nothing }).1 := by
  have hdone : { m with console := #[] }.isDone = false := isDone_eq_false hframes
  have hserve : { m with console := #[] }.serve around dt = .ok none := hserve
  constructor
  . unfold stepped
    dsimp only
    rw [hcancelled, hdone, hserve]
    rfl
  . unfold handle advance
    dsimp only
    rw [hcancelled, hdone, hserve]
    rfl

theorem goesOn_of_serve (hcancelled : m.cancelled = false) (hframes : m.frames ≠ [])
    (hserve : m.serve around dt = .ok none) : m.GoesOn around dt := by
  unfold GoesOn
  rw [(stepped_of_serve hcancelled hframes hserve).1]
  unfold budget trace
  split
  . exact List.cons_ne_nil _ _
  . exact List.cons_ne_nil _ _

/-! ### Looks at a condition -/

theorem serve_of_looks {condition : CondId} {left : R} (hlooks : m.Looks around dt)
    (hwait : m.wait = .poll condition left) :
    m.serve around dt = (m.test around condition "waitUntil").map fun holds =>
      if holds then none else some (.poll condition Tuning.pollInterval) := by
  obtain ⟨-, -, condition', left', hwait', hdue⟩ := hlooks
  rw [hwait] at hwait'
  cases hwait'
  unfold serve
  rw [hwait]
  dsimp only
  rw [if_neg hdue]
  cases m.test around condition "waitUntil" with
  | ok holds => rfl
  | error e => rfl

theorem goesOn_iff_of_looks {condition : CondId} {left : R} (hlooks : m.Looks around dt)
    (hwait : m.wait = .poll condition left) :
    (m.GoesOn around dt ↔ m.test around condition "waitUntil" = .ok true) ∧
      ∀ e, m.test around condition "waitUntil" = .error e →
        (m.advance around dt).2 = .error e := by
  have hserve := serve_of_looks hlooks hwait
  obtain ⟨hcancelled, hframes, -⟩ := hlooks
  cases htest : m.test around condition "waitUntil" with
  | error e =>
    rw [htest] at hserve
    obtain ⟨hstepped, hadvance⟩ := advance_of_serve_error hcancelled hframes hserve
    refine ⟨⟨fun hgoes => absurd hstepped hgoes, nofun⟩, ?_⟩
    intro e' he'
    cases he'
    exact congrArg Prod.snd hadvance
  | ok holds =>
    refine ⟨?_, nofun⟩
    rw [htest] at hserve
    cases holds with
    | true => exact ⟨fun _ => rfl, fun _ => goesOn_of_serve hcancelled hframes hserve⟩
    | false =>
      have hstepped := (handle_of_serve hcancelled hframes hserve).1
      exact ⟨fun hgoes => absurd hstepped hgoes, nofun⟩

theorem not_looks_of_early {condition : CondId} {left : R}
    (hwait : m.wait = .poll condition left) (hearly : Tuning.timeTolerance < left - dt) :
    ¬ m.Looks around dt := by
  rintro ⟨-, -, condition', left', hwait', hdue⟩
  rw [hwait] at hwait'
  cases hwait'
  exact hdue hearly

theorem advance_of_early {condition : CondId} {left : R} (hcancelled : m.cancelled = false)
    (hframes : m.frames ≠ []) (hwait : m.wait = .poll condition left)
    (hearly : Tuning.timeTolerance < left - dt) :
    m.stepped around dt = [] ∧
      m.advance around dt =
        ({ m with console := #[], wait := .poll condition (left - dt) }, .ok .pending) := by
  apply advance_of_serve hcancelled hframes
  unfold serve
  rw [hwait]
  dsimp only
  rw [if_pos hearly]
  rfl

theorem advance_of_not_looks {condition : CondId} {left : R} (hcancelled : m.cancelled = false)
    (hplace : m.WaitsInPlace) (hwait : m.wait = .poll condition left)
    (hnot : ¬ m.Looks around dt) :
    m.stepped around dt = [] ∧
      m.advance around dt =
        ({ m with console := #[], wait := .poll condition (left - dt) }, .ok .pending) := by
  obtain ⟨frame, below, position, hframes, -⟩ := hplace condition left hwait
  have hsome : m.frames ≠ [] := by
    rw [hframes]
    exact List.cons_ne_nil _ _
  apply advance_of_early hcancelled hsome hwait
  by_contra hdue
  exact hnot ⟨hcancelled, hsome, condition, left, hwait, hdue⟩

/-! ### Steps that suspend the program -/

theorem slot_of_instr? {instr : Instr R} (hframes : m.frames = frame :: below)
    (h : m.instr? = some instr) :
    frame.checkPending = false ∧ m.script.instr? frame.slot = some instr :=
  Moment.slot_of_instr? (a := ⟨m, ⟨Scalar.zero, Scalar.zero⟩, 0⟩) hframes h

theorem step_of_pause {instr : Instr R} {seconds : R} (around : Surroundings R)
    (hframes : m.frames = frame :: below) (hinstr : m.instr? = some instr)
    (hpause : instr.pause? = some seconds) (hfinite : Scalar.isFinite seconds = true) :
    m.step around =
      .halt { m with frames := frame.movedOn :: below, wait := .sleep seconds } (.ok .pending) := by
  obtain ⟨hcheck, hget⟩ := slot_of_instr? hframes hinstr
  rw [step_of_instr? around hframes hcheck hget]
  unfold Instr.pause? at hpause
  split at hpause
  . cases hpause
    simp only [exec, act, finite, hfinite, if_true, bind, Except.bind]
    rfl
  . cases hpause
    simp only [exec, act, finite, hfinite, if_true, bind, Except.bind]
    rfl
  . cases hpause

theorem step_of_waitUntil {condition : CondId} (hframes : m.frames = frame :: below)
    (hinstr : m.instr? = some (.waitUntil condition))
    (htest : m.test around condition "waitUntil" = .ok false) :
    m.step around =
      .halt { m with
        frames := frame.movedOn :: below
        wait := .poll condition Tuning.pollInterval } (.ok .pending) := by
  obtain ⟨hcheck, hget⟩ := slot_of_instr? hframes hinstr
  have htest : { m with frames := frame.movedOn :: below }.test around condition "waitUntil" =
      .ok false := htest
  rw [step_of_instr? around hframes hcheck hget]
  simp only [exec, Instr.name, htest, bind, Except.bind]
  rfl

theorem step_of_forever (around : Surroundings R) (hframes : m.frames = frame :: below)
    (hforever : frame.kind = .loop .forever) (hturns : m.TurnsOver) :
    m.step around =
      .halt { m with
        frames := { frame with next := 0 } :: below
        wait := .sleep Tuning.foreverYield } (.ok .pending) := by
  obtain ⟨frame', below', frame'', hframes', hcheck, hget, -⟩ := hturns
  rw [hframes] at hframes'
  cases hframes'
  have hrewound : frame.rewound? = some { frame with next := 0 } := by
    unfold Frame.rewound?
    rw [hforever]
  rw [step_of_end around hframes hcheck hget, hrewound, hforever]
  rfl

theorem Course.last_of_halt (h : Course around m states m' result) {t' : Machine R}
    {result' : Except (ExecutionError R) Progress} (ht : t ∈ states)
    (hhalt : t.step around = .halt t' result') : states.getLast? = some t ∧ m' = t' := by
  induction h with
  | halts h =>
    obtain rfl := List.mem_singleton.mp ht
    rw [hhalt] at h
    cases h
    exact ⟨rfl, rfl⟩
  | goesOn h hrest ih =>
    rcases List.mem_cons.mp ht with rfl | ht
    . rw [hhalt] at h
      cases h
    . obtain ⟨hlast, hend⟩ := ih ht
      refine ⟨?_, hend⟩
      rw [List.getLast?_cons, hlast]
      rfl

theorem Runs.last_of_halt (h : m.Runs p) {t' : Machine R}
    {result' : Except (ExecutionError R) Progress} (ht : t ∈ m.stepped around dt)
    (hhalt : t.step around = .halt t' result') :
    (m.stepped around dt).getLast? = some t ∧ m.handle (.advance around dt) = t' := by
  have hadvances := h.advances_stepped around dt
  have hhandle : m.handle (.advance around dt) = (m.advance around dt).1 := rfl
  rw [hhandle]
  generalize m.stepped around dt = states at hadvances ht
  generalize (m.advance around dt).2 = result at hadvances
  generalize (m.advance around dt).1 = m' at hadvances
  cases hadvances with
  | cancelled | finished | fails | waits => cases ht
  | runs _ _ _ hcourse => exact hcourse.last_of_halt ht hhalt

/-! ### Where the program goes on -/

theorem Runs.frames_of_never (h : m.Runs p) {events : List (Event R)}
    (hnever : m.Never GoesOn events) : (m.after events).frames = m.frames := by
  induction events generalizing m with
  | nil => rfl
  | cons event events ih =>
    cases event with
    | cancel => exact ih (h.handle .cancel) hnever
    | animate dt => exact ih (h.handle (.animate dt)) hnever
    | advance around dt =>
      obtain ⟨hnow, hlater⟩ := hnever
      have hadvances := h.advances_stepped around dt
      rw [not_not.mp hnow] at hadvances
      exact (ih (h.handle (.advance around dt)) hlater).trans hadvances.frames_of_nil.1

theorem Runs.head_stepped (h : m.Runs p) (ht : t ∈ (m.stepped around dt).head?) :
    t.frames = m.frames ∧ t.script = m.script := by
  have hadvances := h.advances_stepped around dt
  generalize m.stepped around dt = states at hadvances ht
  cases states with
  | nil => cases ht
  | cons first rest =>
    cases ht
    exact ⟨hadvances.frames_of_cons.1, hadvances.frames_of_cons.2.1⟩

omit [Scalar R] in
theorem instr?_congr (hframes : t.frames = m.frames) (hscript : t.script = m.script) :
    t.instr? = m.instr? := by
  unfold instr? slot?
  rw [hframes, hscript]

theorem instr?_or_turnsOver (h : m.step around = .halt m' (.ok .pending)) :
    m.instr?.isSome = true ∨ m.TurnsOver := by
  have htakes := m.takes_step around
  rw [h] at htakes
  cases htakes with
  | turns hframes hcheck hinstr hrewound =>
    exact .inr ⟨_, _, _, hframes, hcheck, hinstr, hrewound⟩
  | suspends hframes hcheck hinstr =>
    left
    unfold instr?
    rw [slot?_of_instr? hframes hcheck hinstr]
    exact Option.isSome_of_eq_some hinstr

theorem Runs.executes_or_turnsOver (h : m.Runs p) (hgoes : m.GoesOn around dt)
    (hpending : (m.advance around dt).2 = .ok .pending) :
    (∃ t ∈ m.stepped around dt, t.instr?.isSome = true) ∨
      ∃ t, (m.stepped around dt).getLast? = some t ∧ t.TurnsOver := by
  obtain ⟨-, hlast⟩ := (h.advances_stepped around dt).isChain 0
  obtain ⟨t, ht⟩ : ∃ t, (m.stepped around dt).getLast? = some t :=
    ⟨_, List.getLast?_eq_some_getLast hgoes⟩
  have hhalt := hlast t ht
  rw [hpending] at hhalt
  rcases instr?_or_turnsOver hhalt with hinstr | hturns
  . exact .inl ⟨t, List.mem_of_getLast? ht, hinstr⟩
  . exact .inr ⟨t, ht, hturns⟩

end Machine

/-! ### What is counted down -/

namespace Machine

variable [Exact] {m : Machine ℝ} {left : ℝ}

/-- Something is the case for the first time when so many seconds are over, up to the tolerance. -/
def Lasts (m : Machine ℝ) (Acts : Machine ℝ → Surroundings ℝ → ℝ → Prop) (seconds : ℝ) : Prop :=
  ∀ events around dt, (m.after events).cancelled = false →
    (m.First Acts events around dt ↔ Due (seconds - 1 / 100000) (timesteps events) dt)

theorem timer_sleep :
    Timer (fun left m => m.wait = .sleep left ∧ m.frames ≠ []) GoesOn where
  animates _ h := h
  early := by
    rintro left m around dt ⟨hwait, hframes⟩ hcancelled hleft
    have hserve : m.serve around dt = .ok (some (.sleep (left - dt))) := by
      unfold serve
      rw [hwait]
      dsimp only
      rw [Tuning.timeTolerance_eq, if_pos hleft]
    obtain ⟨hstepped, hhandle⟩ := handle_of_serve hcancelled hframes hserve
    rw [hhandle]
    exact ⟨not_not.mpr hstepped, rfl, hframes⟩
  due := by
    rintro left m around dt ⟨hwait, hframes⟩ hcancelled hleft
    apply goesOn_of_serve hcancelled hframes
    unfold serve
    rw [hwait]
    dsimp only
    rw [Tuning.timeTolerance_eq, if_neg (not_lt.mpr hleft)]

theorem timer_poll (condition : CondId) :
    Timer (fun left m => m.wait = .poll condition left ∧ m.frames ≠ []) Looks where
  animates _ h := h
  early := by
    rintro left m around dt ⟨hwait, hframes⟩ hcancelled hleft
    rw [← Tuning.timeTolerance_eq] at hleft
    have hhandle : m.handle (.advance around dt) = _ :=
      congrArg Prod.fst (advance_of_early hcancelled hframes hwait hleft).2
    rw [hhandle]
    exact ⟨not_looks_of_early hwait hleft, rfl, hframes⟩
  due := by
    rintro left m around dt ⟨hwait, hframes⟩ hcancelled hleft
    refine ⟨hcancelled, hframes, condition, left, hwait, ?_⟩
    rw [Tuning.timeTolerance_eq]
    exact not_lt.mpr hleft

theorem lasts_sleep (hwait : m.wait = .sleep left) (hframes : m.frames ≠ []) :
    m.Lasts GoesOn left :=
  timer_sleep.first_iff ⟨hwait, hframes⟩

theorem lasts_poll {condition : CondId} (hwait : m.wait = .poll condition left)
    (hframes : m.frames ≠ []) : m.Lasts Looks left :=
  (timer_poll condition).first_iff ⟨hwait, hframes⟩

theorem handle_of_looks {condition : CondId} {around : Surroundings ℝ} {dt : ℝ}
    (hlooks : m.Looks around dt) (hwait : m.wait = .poll condition left)
    (htest : m.test around condition "waitUntil" = .ok false) :
    m.handle (.advance around dt) =
      { m with console := #[], wait := .poll condition Tuning.pollInterval } := by
  have hserve := serve_of_looks hlooks hwait
  rw [htest] at hserve
  obtain ⟨hcancelled, hframes, -⟩ := hlooks
  exact (handle_of_serve hcancelled hframes hserve).2

/--
The wait of a `wait` or `setDriveTimeout` block and the pause of a `forever` loop end the timestep.
The program goes on with the frames it had then, in the first later timestep that brings the sum up
to their length. It executes an instruction there, unless an iteration of a loop ends before or the
program is over. The condition of a `waitUntil` block that does not hold is looked at again in the
first timestep that brings the sum since the last look up to the interval. The program goes on there
if the condition holds by then, and what it is like at other times does not matter.
-/
theorem waits_last (p : Program ℝ) (robot : Robot ℝ) (earlier : List (Event ℝ))
    (around : Surroundings ℝ) (dt : ℝ) :
    let m := (launch (Script.ofProgram p) robot).after earlier
    let steps := m.stepped around dt
    let m' := m.handle (.advance around dt)
    (∀ t ∈ steps, ∀ frame below instr seconds, t.frames = frame :: below →
      t.instr? = some instr → instr.pause? = some seconds → Scalar.isFinite seconds = true →
        steps.getLast? = some t ∧ m'.frames = frame.movedOn :: below ∧
          m'.Lasts GoesOn seconds) ∧
    (∀ t ∈ steps, ∀ frame below, t.frames = frame :: below → frame.kind = .loop .forever →
      t.TurnsOver →
        steps.getLast? = some t ∧ m'.frames = { frame with next := 0 } :: below ∧
          m'.Lasts GoesOn (1 / 100)) ∧
    (∀ events around' dt', m'.Never GoesOn events →
      ∀ t ∈ ((m'.after events).stepped around' dt').head?,
        t.frames = m'.frames ∧ t.instr? = m'.instr?) ∧
    (m.GoesOn around dt → (m.advance around dt).2 = .ok .pending →
      (∃ t ∈ steps, t.instr?.isSome = true) ∨
        ∃ t, steps.getLast? = some t ∧ t.TurnsOver) ∧
    (∀ t ∈ steps, ∀ condition, t.instr? = some (.waitUntil condition) →
      t.test around condition "waitUntil" = .ok false →
        steps.getLast? = some t ∧ m'.Lasts Looks (1 / 10)) ∧
    (∀ condition left, m.wait = .poll condition left → m.Looks around dt →
      m.test around condition "waitUntil" = .ok false → m'.Lasts Looks (1 / 10)) ∧
    (∀ condition left, m.wait = .poll condition left → m.Looks around dt →
      (m.GoesOn around dt ↔ m.test around condition "waitUntil" = .ok true) ∧
        ∀ e, m.test around condition "waitUntil" = .error e →
          (m.advance around dt).2 = .error e) ∧
    (∀ condition left, m.wait = .poll condition left → m.cancelled = false →
      ¬ m.Looks around dt →
        steps = [] ∧ m.advance around dt =
          ({ m with console := #[], wait := .poll condition (left - dt) }, .ok .pending)) := by
  intro m steps m'
  have hm : m.Runs p := (runs_launch p robot).after earlier
  have hm' : m'.Runs p := hm.handle (.advance around dt)
  have hplace : m.WaitsInPlace := (runs_launch p robot).waitsInPlace_after
    (Interpreter.waitsInPlace_of_nothing rfl) earlier
  refine ⟨?_, ?_, ?_, hm.executes_or_turnsOver, ?_, ?_, ?_, ?_⟩
  . intro t ht frame below instr seconds hframes hinstr hpause hfinite
    obtain ⟨hlast, hend⟩ :=
      hm.last_of_halt ht (step_of_pause around hframes hinstr hpause hfinite)
    have hend : m' = _ := hend
    rw [hend]
    exact ⟨hlast, rfl, lasts_sleep rfl (List.cons_ne_nil _ _)⟩
  . intro t ht frame below hframes hforever hturns
    obtain ⟨hlast, hend⟩ := hm.last_of_halt ht (step_of_forever around hframes hforever hturns)
    have hend : m' = _ := hend
    have hpause := congrArg Wait.sleep Tuning.foreverYield_eq
    rw [hend]
    exact ⟨hlast, rfl, lasts_sleep hpause (List.cons_ne_nil _ _)⟩
  . intro events around' dt' hnever t ht
    obtain ⟨hframes, hscript⟩ := (hm'.after events).head_stepped ht
    have hframes := hframes.trans (hm'.frames_of_never hnever)
    have hsame := (hm'.after events).script_eq.trans hm'.script_eq.symm
    exact ⟨hframes, instr?_congr hframes (hscript.trans hsame)⟩
  . intro t ht condition hinstr htest
    obtain ⟨slot, hslot, -⟩ := Option.bind_eq_some_iff.mp hinstr
    obtain ⟨frame, below, hframes, -⟩ := slot?_eq_some hslot
    obtain ⟨hlast, hend⟩ := hm.last_of_halt ht (step_of_waitUntil hframes hinstr htest)
    have hend : m' = _ := hend
    have hinterval := congrArg (Wait.poll condition) Tuning.pollInterval_eq
    rw [hend]
    exact ⟨hlast, lasts_poll hinterval (List.cons_ne_nil _ _)⟩
  . intro condition left hwait hlooks htest
    have hend : m' = _ := handle_of_looks hlooks hwait htest
    rw [hend]
    exact lasts_poll (congrArg (Wait.poll condition) Tuning.pollInterval_eq) hlooks.2.1
  . intro condition left hwait hlooks
    exact goesOn_iff_of_looks hlooks hwait
  . intro condition left hwait hcancelled hnot
    exact advance_of_not_looks hcancelled hplace hwait hnot

end Machine

theorem Machine.goes_on_after_two_timesteps :
    let _ : Exact :=
      { facing := fun degrees =>
          (Real.sin (degrees * Real.pi / 180), -Real.cos (degrees * Real.pi / 180))
        isFinite := fun _ => true }
    let p : Program ℝ := [.print "a", .action (.wait none), .print "b"]
    let timestep : Event ℝ := .advance ⟨1, 0⟩ (1 / 2)
    let waiting := (launch (Script.ofProgram p) (.atRest ⟨200, 200⟩)).handle timestep
    waiting.First GoesOn [timestep] ⟨1, 0⟩ (1 / 2) := by
  intro exact p timestep waiting
  let s : Script ℝ :=
    { bodies := #[#[.action (.print "a"), .action (.wait none), .action (.print "b")]]
      conditions := #[] }
  have hscript : Script.ofProgram p = s := by decide +kernel
  let root : Frame := .block Script.root
  let t : Machine ℝ :=
    { script := s
      frames := [{ root with next := 1 }]
      robot := .atRest ⟨200, 200⟩
      console := #["print: a"] }
  have ht : t ∈ (launch (Script.ofProgram p) (.atRest ⟨200, 200⟩)).stepped ⟨1, 0⟩ (1 / 2) := by
    rw [hscript]
    exact List.mem_cons_of_mem _ List.mem_cons_self
  have hcancelled : (waiting.after [timestep]).cancelled = false :=
    (cancelled_advance _ _ _).trans (cancelled_advance _ _ _)
  have hdue : Due (Tuning.defaultWait - 1 / 100000) (timesteps [timestep]) (1 / 2) := by
    have hwait : (Tuning.defaultWait : ℝ) = 1 := Exact.one_eq
    have htimes : timesteps [timestep] = [1 / 2] := rfl
    rw [htimes, due_cons, due_nil, hwait]
    norm_num
  obtain ⟨hwaits, -⟩ := waits_last p (.atRest ⟨200, 200⟩) [] ⟨1, 0⟩ (1 / 2)
  obtain ⟨-, -, hlasts⟩ := hwaits t ht _ _ _ Tuning.defaultWait rfl rfl rfl rfl
  exact (hlasts [timestep] ⟨1, 0⟩ (1 / 2) hcancelled).mpr hdue

/--
A wait at the end of a loop's body: the second later timestep brings the sum up to the wait, but the
loop begins its next iteration in the one after that.
-/
theorem Machine.loop_rests_after_wait :
    let _ : Exact :=
      { facing := fun degrees =>
          (Real.sin (degrees * Real.pi / 180), -Real.cos (degrees * Real.pi / 180))
        isFinite := fun _ => true }
    let p : Program ℝ := [.whileDo (.boolean true) [.print "a", .action (.wait none)]]
    let timestep : Event ℝ := .advance ⟨1, 0⟩ (1 / 2)
    let moments := history 0 (launch (Script.ofProgram p) (.atRest ⟨200, 200⟩))
      [timestep, timestep, timestep, timestep]
    let executed := moments.filter fun a => a.instr?.isSome
    executed.map (fun a => (a.tick, a.instr?.map Instr.name)) =
        [(0, some "while"), (0, some "print"), (0, some "wait"),
          (3, some "print"), (3, some "wait")] ∧
      Due (Tuning.defaultWait - 1 / 100000) [1 / 2] (1 / 2) := by
  intro exact p timestep moments executed
  let s : Script ℝ :=
    { bodies := #[#[.whileDo ⟨0⟩ ⟨1⟩], #[.action (.print "a"), .action (.wait none)]]
      conditions := #[.boolean true] }
  have hscript : Script.ofProgram p = s := by decide +kernel
  have hwait : (Tuning.defaultWait : ℝ) = 1 := Exact.one_eq
  let loop : Frame := { body := ⟨1⟩, kind := .loop (.whileTrue ⟨0⟩) }
  let root : Frame := { body := Script.root, next := 1, kind := .block }
  let waiting : Machine ℝ :=
    { script := s
      frames := [{ loop with next := 2 }, root]
      robot := .atRest ⟨200, 200⟩
      wait := .sleep Tuning.defaultWait
      console := #["print: a"] }
  let halfway : Machine ℝ :=
    { waiting with wait := .sleep (Tuning.defaultWait - 1 / 2), console := #[] }
  let turned : Machine ℝ :=
    { waiting with
      frames := [{ loop with checkPending := true }, root]
      wait := .nextTick
      console := #[] }
  have hfirst : (launch s (.atRest ⟨200, 200⟩)).handle timestep = waiting := rfl
  obtain ⟨hquiet, hsecond⟩ :
      waiting.stepped ⟨1, 0⟩ (1 / 2) = [] ∧ waiting.handle timestep = halfway := by
    apply handle_of_serve rfl (List.cons_ne_nil _ _)
    have hleft : (Tuning.timeTolerance : ℝ) < Tuning.defaultWait - 1 / 2 := by
      rw [Tuning.timeTolerance_eq, hwait]
      norm_num
    exact congrArg Except.ok (if_pos hleft)
  obtain ⟨hturns, hthird⟩ :
      halfway.stepped ⟨1, 0⟩ (1 / 2) = [{ halfway with wait := .nothing }] ∧
        halfway.handle timestep = turned := by
    apply stepped_of_serve rfl (List.cons_ne_nil _ _)
    have hleft : ¬ (Tuning.timeTolerance : ℝ) < Tuning.defaultWait - 1 / 2 - 1 / 2 := by
      rw [Tuning.timeTolerance_eq, hwait]
      norm_num
    exact congrArg Except.ok (if_neg hleft)
  have hnone (tick : Nat) : waiting.moments tick timestep = [] :=
    congrArg (List.map _) hquiet
  have hone (tick : Nat) : halfway.moments tick timestep =
      [{ machine := { halfway with wait := .nothing }, around := ⟨1, 0⟩, tick }] :=
    congrArg (List.map _) hturns
  constructor
  . unfold executed moments
    rw [hscript]
    simp only [history, hfirst, hsecond, hthird, hnone, hone]
    rfl
  . rw [due_cons, due_nil, hwait]
    norm_num

end ReefRover
