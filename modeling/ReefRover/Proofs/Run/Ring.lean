import ReefRover.Proofs.Ocean.Ring
import ReefRover.Proofs.Run.Clear
import ReefRover.Proofs.Run.Frames
import ReefRover.Proofs.Run.Reef

/-!
This module contains the proof that a running robot stays inside the reef, unless it skips it. The
pose is looked at once in a timestep, so a robot that moves far in a single timestep can be on the
other side of the coral by then. Nothing else takes it out: clear of coral it is a radius away from
all edges, so a timestep that moves it no farther than that leaves it on the canvas. A timestep that
ends on the canvas may be of any length.
-/

namespace ReefRover

open Floating Single

def Point.IsBeside (p q : Point Float32) (length : Float32) : Prop :=
  (q.x - length ≤ p.x ∧ p.x ≤ q.x + length) ∧ q.y - length ≤ p.y ∧ p.y ≤ q.y + length

instance (p q : Point Float32) (length : Float32) : Decidable (p.IsBeside q length) :=
  inferInstanceAs (Decidable ((_ ∧ _) ∧ _ ∧ _))

def Point.IsOn (p : Point Float32) (layout : Layout) : Prop :=
  (Scalar.zero ≤ p.x ∧ p.x ≤ layout.canvasSize) ∧ Scalar.zero ≤ p.y ∧ p.y ≤ layout.canvasSize

instance (p : Point Float32) (layout : Layout) : Decidable (p.IsOn layout) :=
  inferInstanceAs (Decidable ((_ ∧ _) ∧ _ ∧ _))

/-- Whether the way from `p` to `q` leads off the canvas and is longer than a robot's radius. -/
def Point.LeapsOff (p q : Point Float32) (layout : Layout) : Prop :=
  p.IsOn layout ∧ ¬ q.IsOn layout ∧ ¬ q.IsBeside p (Contact.robotRadius layout.factor)

instance (p q : Point Float32) (layout : Layout) : Decidable (p.LeapsOff q layout) :=
  inferInstanceAs (Decidable (_ ∧ _ ∧ _))

namespace Layout

/-- A point that keeps the robot's radius away from all edges. -/
structure Inside (layout : Layout) (p : Point Float32) : Prop where
  x : Within p.x (20 * layout.exactFactor) (380 * layout.exactFactor)
  y : Within p.y (20 * layout.exactFactor) (380 * layout.exactFactor)

variable {layout : Layout} {p q : Point Float32} {coral : List (CoralPiece Float32)}

theorem within_of_beside {u v : Float32}
    (hu : Within u (20 * layout.exactFactor) (380 * layout.exactFactor))
    (hge : u - Contact.robotRadius layout.factor ≤ v)
    (hle : v ≤ u + Contact.robotRadius layout.factor) : Within v 0 (400 * layout.exactFactor) := by
  have hradius : Within (Contact.robotRadius layout.factor : Float32)
      ((20 : Nat) * layout.exactFactor) ((20 : Nat) * layout.exactFactor) :=
    layout.within_scaled (by decide)
  have hpos := layout.exactFactor_pos
  have hsize : Bound .binary32 (400 * layout.exactFactor) :=
    layout.bound_scaled 400 0 (by norm_num) (by decide) (by decide)
  have hu_ge := hu.le_toReal
  have hu_le := hu.toReal_le
  have hleast : Within (u - Contact.robotRadius layout.factor) 0 (400 * layout.exactFactor) := by
    apply (gives_sub hu hradius).within bound_zero hsize
    . rw [hradius.toReal_eq]
      push_cast
      linarith
    . rw [hradius.toReal_eq]
      push_cast
      linarith
  have hmost : Within (u + Contact.robotRadius layout.factor) 0 (400 * layout.exactFactor) := by
    apply (gives_add hu hradius).within bound_zero hsize
    . rw [hradius.toReal_eq]
      push_cast
      linarith
    . rw [hradius.toReal_eq]
      push_cast
      linarith
  exact (within_of_le_of_le hleast hmost hge hle).mono hleast.le_toReal hmost.toReal_le

theorem Inside.onCanvas_of_beside (h : layout.Inside q)
    (hbeside : p.IsBeside q (Contact.robotRadius layout.factor)) : layout.OnCanvas p :=
  ⟨within_of_beside h.x hbeside.1.1 hbeside.1.2, within_of_beside h.y hbeside.2.1 hbeside.2.2⟩

theorem within_of_isOn {v : Float32} (hge : Scalar.zero ≤ v) (hle : v ≤ layout.canvasSize) :
    Within v 0 (400 * layout.exactFactor) := by
  have hsize := layout.within_canvasSize
  exact (within_of_le_of_le within_zero hsize hge hle).mono within_zero.le_toReal hsize.toReal_le

theorem onCanvas_of_isOn (h : p.IsOn layout) : layout.OnCanvas p :=
  ⟨within_of_isOn h.1.1 h.1.2, within_of_isOn h.2.1 h.2.2⟩

theorem isOn_of_inset {v : Float32}
    (h : Within v (20 * layout.exactFactor) (380 * layout.exactFactor)) :
    Scalar.zero ≤ v ∧ v ≤ layout.canvasSize := by
  have hpos := layout.exactFactor_pos
  have hsize := layout.within_canvasSize
  have hge := h.le_toReal
  have hle := h.toReal_le
  rw [le_iff_toReal within_zero h, le_iff_toReal h hsize, within_zero.toReal_eq, hsize.toReal_eq]
  constructor
  . linarith
  . linarith

theorem Inside.isOn (h : layout.Inside p) : p.IsOn layout :=
  ⟨isOn_of_inset h.x, isOn_of_inset h.y⟩

theorem Inside.onCanvas_of_not_leapsOff (h : layout.Inside q) (hleap : ¬ q.LeapsOff p layout) :
    layout.OnCanvas p := by
  by_cases hon : p.IsOn layout
  . exact onCanvas_of_isOn hon
  . apply h.onCanvas_of_beside
    by_contra hfar
    exact hleap ⟨h.isOn, hon, hfar⟩

/-- The reef is closed, so what is on the canvas and clear of coral is inside. -/
theorem OnCanvas.inside (h : layout.OnCanvas p) (hreef : Reef.Grown layout coral)
    (hclear : Contact.withCoral? p layout.factor coral = none) : layout.Inside p := by
  have hdepth := hreef.depth_ge h hclear
  have hleft : 20 * layout.exactFactor ≤ toReal p.x := hdepth .left
  have hright : 20 * layout.exactFactor ≤ 400 * layout.exactFactor - toReal p.x := hdepth .right
  have htop : 20 * layout.exactFactor ≤ toReal p.y := hdepth .top
  have hbottom : 20 * layout.exactFactor ≤ 400 * layout.exactFactor - toReal p.y := hdepth .bottom
  exact ⟨⟨h.x.isFinite, hleft, by change toReal p.x ≤ _; linarith⟩,
    ⟨h.y.isFinite, htop, by change toReal p.y ≤ _; linarith⟩⟩

end Layout

namespace Ocean

theorem inside_center (ocean : Ocean Float32) : ocean.layout.Inside ocean.center := by
  have hpos := ocean.layout.exactFactor_pos
  have hmiddle := ocean.layout.within_center.mono
    (by linarith : 20 * ocean.layout.exactFactor ≤ 200 * ocean.layout.exactFactor)
    (by linarith : 200 * ocean.layout.exactFactor ≤ 380 * ocean.layout.exactFactor)
  exact ⟨hmiddle, hmiddle⟩

end Ocean

namespace Controller

structure Sheltered (c : Controller Float32) (layout : Layout) : Prop where
  layout_eq : c.ocean.layout = layout
  clear : c.Clear
  hasReef : c.HasReef
  inside : c.isRunning = true → layout.Inside c.robot.position

variable {c : Controller Float32} {layout : Layout}

theorem clear_of_hasReef (hreef : c.HasReef) (hconsistent : c.Consistent)
    (hrunning : c.isRunning = false) : c.Clear where
  run_isSome := hconsistent.run_isSome
  center := hreef.clear_center c.ocean.layout.within_center c.ocean.layout.within_center
  contact := by
    intro hrunning'
    rw [hrunning] at hrunning'
    cases hrunning'

theorem sheltered_start (hclear : c.Clear) (hreef : c.HasReef) (hrunning : c.isRunning = false)
    (program : Program Float32) : (c.start program).2.Sheltered c.ocean.layout where
  layout_eq := congrArg Prod.fst (c.reef_start program)
  clear := hclear.start program
  hasReef := hreef.of_reef (c.reef_start program)
  inside := by
    intro _
    have hrobot : (c.start program).2.robot.position = c.ocean.center := by
      unfold start
      rw [hrunning]
      rfl
    rw [hrobot]
    exact c.ocean.inside_center

theorem Clear.isRunning_of_tick (h : c.Clear) {dt : Float32}
    (hrunning : (c.tick dt).isRunning = true) : c.isRunning = true := by
  cases hrun : c.run with
  | none =>
    rw [tick_of_run_eq_none hrun] at hrunning
    have hphase := congrArg (fun bearings => bearings.phase.isRunning) (c.bearings_tickOcean dt)
    exact hphase.symm.trans hrunning
  | some run => exact h.isRunning hrun

theorem Sheltered.tick (h : c.Sheltered layout) {dt : Float32}
    (hleap : ¬ c.robot.position.LeapsOff (c.tick dt).robot.position layout) :
    (c.tick dt).Sheltered layout := by
  have hlayout : (c.tick dt).ocean.layout = layout :=
    (congrArg Prod.fst (c.reef_tick dt)).trans h.layout_eq
  have hclear := h.clear.tick dt
  have hreef := h.hasReef.of_reef (c.reef_tick dt)
  refine ⟨hlayout, hclear, hreef, ?_⟩
  intro hrunning
  -- from where the robot was it has not left the canvas, and it is clear of coral there
  have hinside := h.inside (h.clear.isRunning_of_tick hrunning)
  have honCanvas := hinside.onCanvas_of_not_leapsOff hleap
  have hcontact : Contact.withCoral? (c.tick dt).robot.position (c.tick dt).ocean.layout.factor
      (c.tick dt).ocean.coral = none := hclear.contact hrunning
  have hgrown : Reef.Grown (c.tick dt).ocean.layout (c.tick dt).ocean.coral := hreef
  rw [hlayout] at hcontact hgrown
  exact honCanvas.inside hgrown hcontact

theorem Sheltered.ticked (h : c.Sheltered layout) {n : Nat}
    (hleaps : ∀ k < n, ¬ (c.ticked k).robot.position.LeapsOff (c.ticked (k + 1)).robot.position
      layout) : (c.ticked n).Sheltered layout := by
  induction n with
  | zero => exact h
  | succ n ih =>
    have hlast := hleaps n (Nat.lt_succ_self n)
    have hsheltered := ih fun k hk => hleaps k (Nat.lt_succ_of_lt hk)
    rw [ticked_add] at hlast ⊢
    exact hsheltered.tick hlast

/--
A robot that is on a run is on the canvas, whatever the reef, the layout and the program are, as
long as no timestep has taken it off the canvas by more than its own radius at once.
-/
theorem stays_inside_reef (settings : Settings Float32) (session : UInt64)
    (earlier : List (Command Float32)) (program : Program Float32) (n : Nat) :
    let c := (new settings session).after earlier
    let run (k : Nat) := (c.start program).2.ticked k
    c.isRunning = false →
    (∀ k < n, ¬ (run k).robot.position.LeapsOff (run (k + 1)).robot.position c.ocean.layout) →
    (run n).isRunning = true →
      (Scalar.zero ≤ (run n).robot.x ∧ (run n).robot.x ≤ (run n).ocean.layout.canvasSize) ∧
        Scalar.zero ≤ (run n).robot.y ∧ (run n).robot.y ≤ (run n).ocean.layout.canvasSize := by
  intro c run hrunning hleaps hrunning'
  have hreef : c.HasReef := hasReef_after settings session earlier
  have hconsistent : c.Consistent := consistent_after settings session earlier
  have hclear := clear_of_hasReef hreef hconsistent hrunning
  have hsheltered := (sheltered_start hclear hreef hrunning program).ticked hleaps
  have hlayout : (run n).ocean.layout = c.ocean.layout := hsheltered.layout_eq
  rw [hlayout]
  exact (hsheltered.inside hrunning').isOn

theorem stays_inside_reef_on_a_fast_drive :
    let c := (new (Settings.defaults : Settings Float32) 7).after []
    let run (k : Nat) := (c.start [Op.drive .forward 1000 .inches]).2.ticked k
    c.isRunning = false ∧
      (∀ k < 4, ¬ (run k).robot.position.LeapsOff (run (k + 1)).robot.position c.ocean.layout) ∧
      ¬ (run 4).robot.position.IsBeside (run 3).robot.position
        (Contact.robotRadius c.ocean.layout.factor) ∧
      (run 4).isRunning = true ∧ Scalar.zero ≤ (run 4).robot.y := by
  intro c run
  have hstates :
      (∀ k < 4, ¬ (run k).robot.position.LeapsOff (run (k + 1)).robot.position c.ocean.layout) ∧
      ¬ (run 4).robot.position.IsBeside (run 3).robot.position
        (Contact.robotRadius c.ocean.layout.factor) ∧
      (run 4).isRunning = true := by
    decide +kernel
  obtain ⟨hleaps, hfar, hrunning⟩ := hstates
  have hinside := stays_inside_reef (Settings.defaults : Settings Float32) 7 []
    [Op.drive .forward 1000 .inches] 4 rfl hleaps hrunning
  exact ⟨rfl, hleaps, hfar, hrunning, hinside.2.1⟩

/-- A single timestep takes a long drive past the reef, and the robot goes on outside of it. -/
theorem reef_is_skipped :
    let c := new (Settings.defaults : Settings Float32) 7
    let d := (c.start [Op.drive .forward 10000 .inches]).2.ticked 2
    c.isRunning = false ∧ d.isRunning = true ∧ d.robot.y < Scalar.zero := by
  decide +kernel

end Controller

end ReefRover
