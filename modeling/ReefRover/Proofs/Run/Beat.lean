import Mathlib.Logic.Relation
import ReefRover.Proofs.Machine.Cancel
import ReefRover.Proofs.Ocean.Marks
import ReefRover.Proofs.Run.Bearings
import ReefRover.Proofs.Run.Journal

/-!
This module contains what a controller does while time passes, beat by beat. Whatever a timestep, a
frame or a stop does is a sequence of beats, so what each beat keeps is kept by all of them.
-/

namespace ReefRover

variable {R : Type}

namespace Controller

def withTrash (c : Controller R) (trash : List (TrashItem R)) (total : UInt32) : Controller R :=
  { c with ocean := { c.ocean with trash }, game := { c.game with trashCollected := total } }

/-- One thing that happens to a controller. Only the notices of a run's start are not among them. -/
inductive Beat (c : Controller R) : Controller R → Prop where
  | notes {notice : Notice R} (hnotice : notice.startsRun = false) : Beat c (c.note notice)
  | listens : Beat c { c with listeners := c.listeners + 1 }
  | hosts (accumulator : R) : Beat c { c with accumulator }
  | ages {ocean : Ocean R} (hages : c.ocean.Ages ocean) : Beat c { c with ocean }
  | spawns {id : UInt32} {ocean : Ocean R} (hspawning : c.game.isSpawningTrash = true)
      (hlive : c.ocean.liveTrash < c.settings.maxTrash) (hspawns : c.ocean.Spawns id ocean) :
    Beat c ({ c with ocean }.emit (.trashSpawned id))
  | collects {id : UInt32} {trash : List (TrashItem R)} (hrun : c.run.isSome = true)
      (hcollects : c.ocean.Collects id { c.ocean with trash }) :
    Beat c ((c.withTrash trash (c.game.trashCollected + 1)).emit
      (.trashCollected id (c.game.trashCollected + 1)))
  | works {run : ActiveRun R} {rig : Rig R} (hrun : c.run.isSome = true)
      (hcancelled : rig.cancelled = c.rig.cancelled) :
    Beat c { c with run := some run, rig }
  | ends {outcome : RunOutcome R} (hrun : c.run.isSome = true) (houtcome : outcome ≠ .collision) :
    Beat c (c.finish outcome)
  | collides (index : Nat) (hrun : c.run.isSome = true) :
    Beat c ((c.emit (.coralHit index)).finish .collision)

def Beats : Controller R → Controller R → Prop :=
  Relation.ReflTransGen Beat

variable {c c' c'' : Controller R}

namespace Beats

theorem refl (c : Controller R) : c.Beats c :=
  Relation.ReflTransGen.refl

theorem trans (h : c.Beats c') (h' : c'.Beats c'') : c.Beats c'' :=
  Relation.ReflTransGen.trans h h'

theorem tail (h : c.Beats c') (hbeat : c'.Beat c'') : c.Beats c'' :=
  Relation.ReflTransGen.tail h hbeat

end Beats

theorem Beat.beats (h : c.Beat c') : c.Beats c' :=
  Relation.ReflTransGen.single h

theorem beats_finish (c : Controller R) {outcome : RunOutcome R} (houtcome : outcome ≠ .collision) :
    c.Beats (c.finish outcome) := by
  cases hrun : c.run with
  | none =>
    unfold finish
    rw [hrun]
    exact .refl c
  | some run => exact (Beat.ends (Option.isSome_of_eq_some hrun) houtcome).beats

theorem beats_settle (c : Controller R) (result : Except (ExecutionError R) Progress) :
    c.Beats (c.settle result) := by
  rcases settle_cases result with hgoesOn | ⟨outcome, houtcome, hends⟩
  . rw [hgoesOn]
    exact .refl c
  . rw [hends]
    exact c.beats_finish houtcome

theorem beats_consoles (hrun : c.run.isSome = true) (texts : List String) :
    let c' := texts.foldl (fun c text => c.note (.console text)) c
    c.Beats c' ∧ c'.run.isSome = true := by
  induction texts generalizing c with
  | nil => exact ⟨.refl c, hrun⟩
  | cons text texts ih =>
    obtain ⟨hbeats, hrun'⟩ := ih (c := c.note (.console text)) hrun
    have hnoted : c.Beats (c.note (.console text)) := (Beat.notes rfl).beats
    exact ⟨hnoted.trans hbeats, hrun'⟩

/-! ### The ocean -/

variable [Scalar R]

theorem beats_tickOcean (c : Controller R) (dt : R) : c.Beats (c.tickOcean dt) := by
  unfold tickOcean
  rcases htick : c.ocean.tick c.settings c.game.isSpawningTrash dt with ⟨spawned, ocean⟩
  cases spawned with
  | none => exact (Beat.ages (Ocean.ages_of_tick htick)).beats
  | some id =>
    obtain ⟨hspawning, aged, hages, hlive, hspawns⟩ := Ocean.spawns_of_tick htick
    have hnoted : c.Beats ({ c with ocean := aged }.note (.trashSpawned id)) :=
      (Beat.ages hages).beats.tail (.notes rfl)
    exact hnoted.tail (.spawns hspawning hlive hspawns)

/-! ### Looks at the pose -/

theorem beats_collect (hrun : c.run.isSome = true) {robot : Point R} {factor : R}
    {items items' : List (TrashItem R)} {pickups : List Pickup} (kept : List (TrashItem R))
    (htrash : c.ocean.trash = kept ++ items)
    (hseen : TrashItem.collect robot factor c.game.trashCollected items = (pickups, items')) :
    let total := c.game.trashCollected + UInt32.ofNat pickups.length
    c.Beats (pickups.foldl pickUp (c.withTrash (kept ++ items') total)) := by
  -- each piece is collected as the list is gone through, so the score grows along with it
  induction items generalizing c pickups items' kept with
  | nil =>
    cases hseen
    have htotal : c.game.trashCollected + UInt32.ofNat 0 = c.game.trashCollected :=
      UInt32.add_zero _
    unfold withTrash
    dsimp only [List.length_nil, List.foldl_nil]
    rw [htotal, ← htrash]
    exact .refl c
  | cons item items ih =>
    unfold TrashItem.collect at hseen
    split at hseen
    . next hreach =>
      rcases hrest : TrashItem.collect robot factor (c.game.trashCollected + 1) items
        with ⟨pickups', rest⟩
      rw [hrest] at hseen
      cases hseen
      have htotal : c.game.trashCollected + UInt32.ofNat (pickups'.length + 1) =
          c.game.trashCollected + 1 + UInt32.ofNat pickups'.length := by
        rw [UInt32.ofNat_add, UInt32.add_assoc, UInt32.add_comm (UInt32.ofNat pickups'.length)]
        rfl
      let total := c.game.trashCollected + 1
      let c₁ := c.withTrash (kept ++ { item with isCollected := true } :: items) total
      have hitem : c.Beats (c₁.pickUp { id := item.id, total }) := by
        have hnoted : c.Beats (c.note (.trashCollected item.id total)) := (Beat.notes rfl).beats
        exact hnoted.tail (.collects hrun (Ocean.collects_of_trash_eq htrash
          (TrashItem.not_collected_of_isInReach hreach)))
      have hitems := ih (c := c₁.pickUp { id := item.id, total }) hrun
        (kept ++ [{ item with isCollected := true }]) (by rw [List.append_assoc]; rfl) hrest
      rw [List.append_assoc] at hitems
      dsimp only [List.length_cons, List.foldl_cons]
      rw [htotal]
      exact hitem.trans hitems
    . next hreach =>
      rcases hrest : TrashItem.collect robot factor c.game.trashCollected items
        with ⟨pickups', rest⟩
      rw [hrest] at hseen
      cases hseen
      have hbeats := ih hrun (kept ++ [item]) (by rw [htrash, List.append_assoc]; rfl) hrest
      rw [List.append_assoc] at hbeats
      exact hbeats

theorem beats_collected (hrun : c.run.isSome = true) :
    c.Beats c.collected ∧ c.collected.run.isSome = true := by
  constructor
  . exact beats_collect hrun [] rfl rfl
  . rw [run_collected]
    exact hrun

structure Looks (c : Controller R) (looked : Bool × Controller R) : Prop where
  collides : looked.1 = true → c.Beats (looked.2.finish .collision)
  goesOn : looked.1 = false → c.Beats looked.2 ∧ looked.2.run.isSome = true

theorem looks_observe (hrun : c.run.isSome = true) : c.Looks c.observe := by
  obtain ⟨hbeats, hrun'⟩ := beats_collected hrun
  rw [observe_eq]
  split
  . next contact _ =>
    split
    . refine ⟨fun _ => ?_, nofun⟩
      exact (hbeats.tail (.notes rfl)).tail (.collides contact.index hrun')
    . exact ⟨nofun, fun _ => ⟨hbeats, hrun'⟩⟩
  . exact ⟨nofun, fun _ => ⟨hbeats, hrun'⟩⟩

theorem looks_observeIfMoved (hrun : c.run.isSome = true) (before : Pose R) :
    c.Looks (c.observeIfMoved before) := by
  unfold observeIfMoved
  split
  . exact ⟨nofun, fun _ => ⟨.refl c, hrun⟩⟩
  . exact looks_observe hrun

theorem beats_unlessCoral (hrun : c.run.isSome = true) (before : Pose R)
    {goOn : Controller R → Controller R}
    (hgoOn : ∀ d : Controller R, d.run.isSome = true → d.Beats (goOn d)) :
    c.Beats (c.unlessCoral before goOn) := by
  have hlooks := looks_observeIfMoved hrun before
  unfold unlessCoral
  split
  . next d hlooked =>
    rw [hlooked] at hlooks
    exact hlooks.collides rfl
  . next d hlooked =>
    rw [hlooked] at hlooks
    obtain ⟨hbeats, hrun'⟩ := hlooks.goesOn rfl
    exact hbeats.trans (hgoOn d hrun')

/-! ### Timesteps -/

theorem beats_moveRobot (hrun : c.run.isSome = true) (run : ActiveRun R) (dt : R) :
    c.Beats ({ c with run := some run }.moveRobot dt) :=
  (Beat.works hrun (c.rig.cancelled_step dt)).beats

theorem beats_runProgram (hrun : c.run.isSome = true) (run : ActiveRun R) (dt : R) :
    c.Beats (c.runProgram run dt).2 ∧ (c.runProgram run dt).2.run.isSome = true := by
  let around : Surroundings R := { scale := c.ocean.layout.factor, clock := run.clock }
  let machine : Machine R := { toInterpreter := run.interpreter, toRig := c.rig }
  let machine' := (machine.advance around dt).1
  let run' : ActiveRun R := { run with interpreter := machine'.toInterpreter }
  have hworks : c.Beat { c with rig := machine'.toRig, run := some run' } :=
    .works hrun (machine.cancelled_advance around dt)
  obtain ⟨hbeats, hrun'⟩ :=
    beats_consoles (c := { c with rig := machine'.toRig, run := some run' }) rfl
      machine'.console.toList
  rw [Array.foldl_toList] at hbeats hrun'
  exact ⟨hworks.beats.trans hbeats, hrun'⟩

theorem beats_worked (hrun : c.run.isSome = true) (run : ActiveRun R) (dt : R) :
    c.Beats (c.worked run dt) := by
  obtain ⟨hprogram, hrun'⟩ := beats_runProgram hrun run dt
  exact hprogram.trans (beats_unlessCoral hrun' _ fun d _ => d.beats_settle _)

theorem beats_tick (c : Controller R) (dt : R) : c.Beats (c.tick dt) := by
  have hocean := c.beats_tickOcean dt
  cases hrun : c.run with
  | none =>
    rw [tick_of_run_eq_none hrun]
    exact hocean
  | some run =>
    have hrun' : (c.tickOcean dt).run.isSome = true := by
      rw [run_tickOcean, hrun]
      rfl
    have hmoved : c.Beats (c.moved run dt) :=
      hocean.trans (beats_moveRobot hrun' (run.later dt) dt)
    rw [tick_of_run hrun]
    exact hmoved.trans (beats_unlessCoral rfl _ fun d hd => beats_worked hd _ dt)

theorem beats_advance (c : Controller R) (frame : R) : c.Beats (c.advance frame).2 := by
  apply advance_induction
  . intro d accumulator hd
    exact hd.tail (.hosts accumulator)
  . intro d hd
    exact hd.trans (d.beats_tick _)
  . exact .refl c

end Controller

end ReefRover
