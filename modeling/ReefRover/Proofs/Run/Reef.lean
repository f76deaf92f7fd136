import ReefRover.Proofs.Ocean.Drawn
import ReefRover.Proofs.Run.Alike

/-!
This module contains what becomes of the reef of a controller. Runs leave it as it is, and so does
everything else but a change of the layout, which grows another one. So there is always a reef that
was drawn for the layout.
-/

namespace ReefRover

variable {R : Type}

namespace Controller

def reef (c : Controller R) : Layout × List (CoralPiece R) :=
  (c.ocean.layout, c.ocean.coral)

variable {c d : Controller R}

theorem reef_of_bearings (h : d.bearings = c.bearings) : d.reef = c.reef :=
  congrArg (fun bearings => (bearings.layout, bearings.coral)) h

theorem reef_of_ocean (h : d.ocean = c.ocean) : d.reef = c.reef :=
  congrArg (fun ocean => (ocean.layout, ocean.coral)) h

theorem reef_finish (c : Controller R) (outcome : RunOutcome R) :
    (c.finish outcome).reef = c.reef :=
  reef_of_ocean (c.ocean_finish outcome)

variable [Scalar R]

theorem reef_tick (c : Controller R) (dt : R) : (c.tick dt).reef = c.reef := by
  apply tick_induction (P := fun d => d.reef = c.reef)
  . intro d e _ hocean _ hd
    exact (reef_of_ocean hocean).trans hd
  . intro d hd
    exact (reef_of_bearings d.bearings_collected).trans hd
  . intro d run dt hd
    have hran : (d.runProgram run dt).2.reef = d.reef :=
      congrArg (fun bearings => (bearings.layout, bearings.coral)) (d.bearings_runProgram run dt)
    exact hran.trans hd
  . intro _
    exact reef_of_bearings (c.bearings_tickOcean dt)
  . intro run _
    exact congrArg (fun bearings => (bearings.layout, bearings.coral)) (c.bearings_moved run dt)

theorem reef_start (c : Controller R) (program : Program R) :
    (c.start program).2.reef = c.reef := by
  unfold start
  split
  . rfl
  . rfl

theorem reef_obey (c : Controller R) {command : Command R} (hreef : command.growsReef = false) :
    (c.obey command).reef = c.reef := by
  cases command with
  | start program => exact c.reef_start program
  | startDecoded decoded =>
    change (c.startDecoded decoded).2.reef = c.reef
    rcases c.startDecoded_cases decoded with ⟨program, heq⟩ | ⟨outcome, -, heq⟩
    . rw [heq]
      exact c.reef_start program
    . rw [heq]
      exact (reef_finish _ outcome).trans (c.reef_start [])
  | stop => exact c.reef_finish .stopped
  | reset => exact c.reef_finish .stopped
  | clear => exact c.reef_finish .stopped
  | setLayout layout => cases hreef
  | listen => rfl
  | tick dt => exact c.reef_tick dt
  | advance frame =>
    apply advance_induction (P := fun d => d.reef = c.reef)
    . intro d accumulator hd
      exact hd
    . intro d hd
      exact (d.reef_tick _).trans hd
    . rfl
  | drainEvents => rfl

end Controller

/-! ### Reefs that are drawn -/

namespace Controller

def HasReef (c : Controller Float32) : Prop :=
  Reef.Grown c.reef.1 c.reef.2

variable {c d : Controller Float32}

theorem HasReef.of_reef (h : c.HasReef) (hreef : d.reef = c.reef) : d.HasReef := by
  unfold HasReef
  rw [hreef]
  exact h

theorem hasReef_growReef (c : Controller Float32) : c.growReef.HasReef :=
  ⟨c.ocean.random, rfl⟩

theorem HasReef.obey (h : c.HasReef) (command : Command Float32) : (c.obey command).HasReef := by
  cases hreef : command.growsReef with
  | false => exact h.of_reef (c.reef_obey hreef)
  | true =>
    cases command with
    | setLayout layout =>
      change (c.setLayout layout).2.HasReef
      unfold setLayout
      split
      . exact h
      . next hrunning =>
        let c' : Controller Float32 :=
          { c with settings := { c.settings with layout }, ocean := { c.ocean with layout } }
        exact c'.hasReef_growReef.of_reef (c'.growReef.reef_finish .stopped)
    | start | startDecoded | stop | reset | clear | listen | tick | advance | drainEvents =>
      cases hreef

theorem hasReef_after (settings : Settings Float32) (session : UInt64)
    (commands : List (Command Float32)) : ((new settings session).after commands).HasReef := by
  have hnew : (new settings session).HasReef := ⟨_, rfl⟩
  exact after_induction (fun _ hd command _ => hd.obey command) hnew

end Controller

end ReefRover
