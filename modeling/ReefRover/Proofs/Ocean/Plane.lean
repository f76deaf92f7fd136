import ReefRover.Ocean.Contact
import ReefRover.Proofs.Ocean.Laid
import ReefRover.Proofs.Scalar.Constants
import ReefRover.Proofs.Scalar.Exact

/-!
This module contains the canvas in exact arithmetic: its border, the distances between its points,
the lengths of a layout and the numbers that can be drawn.
-/

namespace ReefRover

namespace Point

structure OnBorder (p : Point ℝ) (size : ℝ) : Prop where
  x : 0 ≤ p.x ∧ p.x ≤ size
  y : 0 ≤ p.y ∧ p.y ≤ size
  edge : p.x = 0 ∨ p.x = size ∨ p.y = 0 ∨ p.y = size

end Point

/-! The facts about real numbers, before they get the operations of a `Scalar`. -/

section Reals

theorem exists_off_border {v size f : ℝ} (hf : 0 ≤ f) (hsize : 92 * f ≤ size)
    (hv : 40 * f ≤ v ∧ v ≤ size - 40 * f) :
    ∃ u, (46 * f ≤ u ∧ u ≤ size - 46 * f) ∧ |u - v| ≤ 6 * f := by
  rcases lt_or_ge v (46 * f) with hlow | hlow
  . refine ⟨46 * f, ⟨le_rfl, by linarith⟩, ?_⟩
    rw [abs_of_nonneg (by linarith)]
    linarith
  . rcases le_or_gt v (size - 46 * f) with hhigh | hhigh
    . refine ⟨v, ⟨hlow, hhigh⟩, ?_⟩
      rw [sub_self, abs_zero]
      linarith
    . refine ⟨size - 46 * f, ⟨by linarith, le_rfl⟩, ?_⟩
      rw [abs_of_nonpos (by linarith)]
      linarith

end Reals

variable [Exact]

/-! ### Points -/

namespace Point

noncomputable def toComplex (p : Point ℝ) : ℂ :=
  ⟨p.x, p.y⟩

theorem distance_eq_dist (p q : Point ℝ) : p.distance q = dist p.toComplex q.toComplex := by
  rw [Complex.dist_eq_re_im]
  unfold distance
  dsimp only [toComplex]
  rw [pow_two, pow_two]
  rfl

theorem distance_comm (p q : Point ℝ) : p.distance q = q.distance p := by
  rw [distance_eq_dist, distance_eq_dist, dist_comm]

theorem distance_triangle (p q r : Point ℝ) : p.distance r ≤ p.distance q + q.distance r := by
  simp only [distance_eq_dist]
  exact dist_triangle _ _ _

theorem abs_sub_x_le (p q : Point ℝ) : |p.x - q.x| ≤ p.distance q := by
  rw [distance_eq_dist, Complex.dist_eq]
  exact Complex.abs_re_le_norm (p.toComplex - q.toComplex)

theorem abs_sub_y_le (p q : Point ℝ) : |p.y - q.y| ≤ p.distance q := by
  rw [distance_eq_dist, Complex.dist_eq]
  exact Complex.abs_im_le_norm (p.toComplex - q.toComplex)

theorem distance_le {p q : Point ℝ} {a b c : ℝ} (hx : |p.x - q.x| ≤ a) (hy : |p.y - q.y| ≤ b)
    (hc : 0 ≤ c) (h : a ^ 2 + b ^ 2 ≤ c ^ 2) : p.distance q ≤ c := by
  rw [distance_eq_dist, Complex.dist_eq_re_im]
  refine (Real.sqrt_le_left hc).mpr (le_trans (add_le_add ?_ ?_) h)
  . exact sq_le_sq' (abs_le.mp hx).1 (abs_le.mp hx).2
  . exact sq_le_sq' (abs_le.mp hy).1 (abs_le.mp hy).2

/-- So far away from the whole border, on either side of it. -/
def KeepsOff (p : Point ℝ) (size length : ℝ) : Prop :=
  ∀ q : Point ℝ, q.OnBorder size → length ≤ p.distance q

theorem keepsOff_of_inside {p : Point ℝ} {size length : ℝ}
    (hx : length ≤ p.x ∧ p.x ≤ size - length) (hy : length ≤ p.y ∧ p.y ≤ size - length) :
    p.KeepsOff size length := by
  intro q hq
  have hxle := p.abs_sub_x_le q
  have hyle := p.abs_sub_y_le q
  rcases hq.edge with hedge | hedge | hedge | hedge
  . rw [hedge] at hxle
    linarith [le_abs_self (p.x - 0)]
  . rw [hedge] at hxle
    linarith [neg_le_abs (p.x - size)]
  . rw [hedge] at hyle
    linarith [le_abs_self (p.y - 0)]
  . rw [hedge] at hyle
    linarith [neg_le_abs (p.y - size)]

end Point

/-! ### Lengths -/

namespace Layout

theorem factor_eq (layout : Layout) : (layout.factor : ℝ) = layout.exactFactor := by
  cases layout with
  | normal => exact Nat.cast_one
  | enlarged =>
    have hratio : ((3 : ℕ) : ℝ) / (2 : ℕ) = 3 / 2 := by norm_num
    exact hratio

theorem scaled_eq (layout : Layout) (n : ℕ) [n.AtLeastTwo] :
    (Scalar.ofNat n * layout.factor : ℝ) = OfNat.ofNat n * layout.exactFactor := by
  rw [← layout.factor_eq]
  exact congrArg (· * _) (Nat.cast_ofNat : (n : ℝ) = OfNat.ofNat n)

theorem canvasSize_eq (layout : Layout) : (layout.canvasSize : ℝ) = 400 * layout.exactFactor :=
  layout.scaled_eq 400

theorem robotRadius_eq (layout : Layout) :
    Contact.robotRadius (layout.factor : ℝ) = 20 * layout.exactFactor :=
  layout.scaled_eq 20

theorem trashRadius_eq (layout : Layout) (item : TrashItem ℝ) :
    Contact.trashRadius item layout.factor = 12 * layout.exactFactor * item.scale :=
  congrArg (· * item.scale) (layout.scaled_eq 12)

end Layout

/-! ### Draws -/

namespace Random

theorem mem_range {low high : ℝ} (h : low ≤ high) :
    Always (range low high) fun v => low ≤ v ∧ v ≤ high := by
  intro g
  obtain ⟨n, hn, hunit⟩ := exists_ratio_unit (R := ℝ) g
  have hpart : 0 ≤ (Scalar.ratio n (Nat.pow 2 23) : ℝ) ∧
      (Scalar.ratio n (Nat.pow 2 23) : ℝ) ≤ 1 := by
    have hle : (n : ℝ) ≤ Nat.pow 2 23 := Nat.cast_le.mpr hn.le
    have hpos : (0 : ℝ) < Nat.pow 2 23 := Nat.cast_pos.mpr (by decide)
    exact ⟨div_nonneg n.cast_nonneg hpos.le, (div_le_one hpos).mpr hle⟩
  have hwidth := sub_nonneg.mpr h
  rw [run_range, hunit]
  constructor
  . linarith [mul_nonneg hpart.1 hwidth]
  . linarith [mul_le_of_le_one_left hwidth hpart.2]

end Random

end ReefRover
