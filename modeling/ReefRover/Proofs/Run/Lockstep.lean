import ReefRover.Proofs.Run.Bearings

/-!
This module contains what it takes to follow controllers through a timestep. It is enough to know
what the stages keep, of one controller or of two that are compared, since a timestep does nothing
but go from stage to stage.
-/

namespace ReefRover

variable {R : Type} [Scalar R]

namespace Controller

/-! ### Two controllers -/

/--
A relation of controllers that every stage keeps. Both of them find the same at each stage, with the
one robot in the pose that the other's pose is mapped to.
-/
structure Lockstep (place : Pose R → Pose R) (S : Controller R → Controller R → Prop) (dt : R) :
    Prop where
  pose_eq : ∀ {c c'}, S c c' → c'.robot.pose = place c.robot.pose
  finish : ∀ {c c'}, S c c' → ∀ outcome, S (c.finish outcome) (c'.finish outcome)
  look : ∀ {c c'}, S c c' → ∀ before,
    (c'.observeIfMoved (place before)).1 = (c.observeIfMoved before).1 ∧
      S (c.observeIfMoved before).2 (c'.observeIfMoved (place before)).2
  program : ∀ {c c' run}, S c c' → c.run = some run →
    (c'.runProgram run dt).1 = (c.runProgram run dt).1 ∧
      S (c.runProgram run dt).2 (c'.runProgram run dt).2

namespace Lockstep

variable {place : Pose R → Pose R} {S : Controller R → Controller R → Prop} {dt : R}
  {c c' : Controller R}

theorem settle (h : Lockstep place S dt) (hc : S c c')
    (result : Except (ExecutionError R) Progress) : S (c.settle result) (c'.settle result) := by
  rcases settle_cases result with hgoesOn | ⟨outcome, -, hends⟩
  . rw [hgoesOn, hgoesOn]
    exact hc
  . rw [hends, hends]
    exact h.finish hc outcome

theorem unlessCoral (h : Lockstep place S dt) (hc : S c c') (before : Pose R)
    {goOn goOn' : Controller R → Controller R}
    (hgoOn : ∀ d d', S d d' → d.bearings = c.bearings → S (goOn d) (goOn' d')) :
    S (c.unlessCoral before goOn) (c'.unlessCoral (place before) goOn') := by
  obtain ⟨hfatal, hlooked⟩ := h.look hc before
  have hbearings := c.bearings_observeIfMoved before
  unfold Controller.unlessCoral
  rcases hseen : c.observeIfMoved before with ⟨fatal, d⟩
  rcases hseen' : c'.observeIfMoved (place before) with ⟨fatal', d'⟩
  rw [hseen, hseen'] at hfatal hlooked
  rw [hseen] at hbearings
  cases hfatal
  cases fatal with
  | true => exact h.finish hlooked .collision
  | false => exact hgoOn d d' hlooked hbearings

theorem worked (h : Lockstep place S dt) (hc : S c c') {run : ActiveRun R}
    (hrun : c.run = some run) : S (c.worked run dt) (c'.worked run dt) := by
  obtain ⟨hresult, hprogram⟩ := h.program hc hrun
  unfold Controller.worked
  dsimp only
  rw [hresult, h.pose_eq hc]
  exact h.unlessCoral hprogram _ fun _ _ hd _ => h.settle hd _

theorem tick (h : Lockstep place S dt) (hrun : c'.run = c.run)
    (hpose : c'.robot.pose = place c.robot.pose)
    (hocean : c.run = none → S (c.tickOcean dt) (c'.tickOcean dt))
    (hmoved : ∀ run, c.run = some run → S (c.moved run dt) (c'.moved run dt)) :
    S (c.tick dt) (c'.tick dt) := by
  cases hactive : c.run with
  | none =>
    rw [tick_of_run_eq_none hactive, tick_of_run_eq_none (hrun.trans hactive)]
    exact hocean hactive
  | some run =>
    have hlater : (c.moved run dt).run = some (run.later dt) :=
      congrArg Bearings.run (c.bearings_moved run dt)
    rw [tick_of_run hactive, tick_of_run (hrun.trans hactive), hpose]
    apply h.unlessCoral (hmoved run hactive)
    -- a look leaves the run, so the program goes on with the one that has just gone by
    intro d d' hd hbearings
    exact h.worked hd ((congrArg Bearings.run hbearings).trans hlater)

end Lockstep

/-! ### One controller -/

structure Stagewise (P : Controller R → Prop) (dt : R) : Prop where
  finish : ∀ {c}, P c → ∀ outcome, P (c.finish outcome)
  look : ∀ {c}, P c → ∀ before, P (c.observeIfMoved before).2
  program : ∀ {c run}, P c → c.run = some run → P (c.runProgram run dt).2

namespace Stagewise

variable {P : Controller R → Prop} {dt : R}

theorem lockstep (h : Stagewise P dt) : Lockstep id (fun c c' => c' = c ∧ P c) dt where
  pose_eq := by
    rintro c _ ⟨rfl, -⟩
    rfl
  finish := by
    rintro c _ ⟨rfl, hc⟩ outcome
    exact ⟨rfl, h.finish hc outcome⟩
  look := by
    rintro c _ ⟨rfl, hc⟩ before
    exact ⟨rfl, rfl, h.look hc before⟩
  program := by
    rintro c _ run ⟨rfl, hc⟩ hrun
    exact ⟨rfl, rfl, h.program hc hrun⟩

theorem tick (h : Stagewise P dt) {c : Controller R}
    (hocean : c.run = none → P (c.tickOcean dt))
    (hmoved : ∀ run, c.run = some run → P (c.moved run dt)) : P (c.tick dt) := by
  have hticked : c.tick dt = c.tick dt ∧ P (c.tick dt) :=
    h.lockstep.tick rfl rfl (fun hrun => ⟨rfl, hocean hrun⟩) fun run hrun => ⟨rfl, hmoved run hrun⟩
  exact hticked.2

end Stagewise

section Induction

variable {P : Controller R → Prop}
  (hkept : ∀ c d : Controller R, d.settings = c.settings → d.ocean = c.ocean →
    d.robot = c.robot → P c → P d)
  (hlooks : ∀ c, P c → P c.collected)

include hkept hlooks

theorem observeIfMoved_induction {c : Controller R} (hc : P c) (before : Pose R) :
    P (c.observeIfMoved before).2 := by
  unfold observeIfMoved
  split
  . exact hc
  . rw [observe_eq]
    split
    . split
      . exact hkept c.collected _ rfl rfl rfl (hlooks c hc)
      . exact hlooks c hc
    . exact hlooks c hc

/--
What a timestep makes of the settings, the ocean and the robot is made when time passes in the
ocean and the robot moves, by the looks at the pose, and when the program goes on.
-/
theorem tick_induction (hprogram : ∀ c run dt, P c → P (c.runProgram run dt).2)
    (c : Controller R) (dt : R) (hocean : c.run = none → P (c.tickOcean dt))
    (hmoved : ∀ run, c.run = some run → P (c.moved run dt)) : P (c.tick dt) := by
  have hstages : Stagewise P dt :=
    { finish := finish_induction hkept
      look := observeIfMoved_induction hkept hlooks
      program := fun hd _ => hprogram _ _ dt hd }
  exact hstages.tick hocean hmoved

end Induction

end Controller

end ReefRover
