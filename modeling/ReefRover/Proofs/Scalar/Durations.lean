import ReefRover.Proofs.Scalar.Exact
import ReefRover.Tuning

/-!
This module contains the durations of the simulation in exact arithmetic.
-/

namespace ReefRover

namespace Exact

variable [Exact]

theorem zero_eq : (Scalar.zero : ℝ) = 0 :=
  Nat.cast_zero

theorem one_eq : (Scalar.one : ℝ) = 1 :=
  Nat.cast_one

theorem ratio_one (n : ℕ) [n.AtLeastTwo] : (Scalar.ratio 1 n : ℝ) = 1 / OfNat.ofNat n :=
  congrArg₂ (· / ·) Nat.cast_one Nat.cast_ofNat

end Exact

namespace Tuning

variable [Exact]

theorem timestep_eq : (timestep : ℝ) = 1 / 120 :=
  Exact.ratio_one 120

theorem maxFrame_eq : (maxFrame : ℝ) = 1 / 10 :=
  Exact.ratio_one 10

theorem timeTolerance_eq : (timeTolerance : ℝ) = 1 / 100000 :=
  Exact.ratio_one 100000

theorem pollInterval_eq : (pollInterval : ℝ) = 1 / 10 :=
  Exact.ratio_one 10

theorem foreverYield_eq : (foreverYield : ℝ) = 1 / 100 :=
  Exact.ratio_one 100

theorem spawnInterval_eq : (spawnInterval : ℝ) = 2 :=
  Nat.cast_ofNat

end Tuning

end ReefRover
