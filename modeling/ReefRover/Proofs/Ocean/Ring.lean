import ReefRover.Proofs.Ocean.Coral
import ReefRover.Proofs.Ocean.Drawn

/-!
This module contains the proof that the reef is a closed ring. On the canvas no place near an edge
is clear of coral, whatever the reef was drawn as, while the middle of the canvas is.

From anywhere within 20 of an edge some piece is at most 22 away along the edge and 20 across it,
which is less than 30 in all, and the robot and the piece together reach that far. All lengths are
those of the normal layout, times the factor.
-/

namespace ReefRover

open Floating Single

variable {layout : Layout} {robot : Point Float32} {piece : CoralPiece Float32}
  {coral : List (CoralPiece Float32)}

structure Layout.OnCanvas (layout : Layout) (p : Point Float32) : Prop where
  x : Within p.x 0 (400 * layout.exactFactor)
  y : Within p.y 0 (400 * layout.exactFactor)

/-! ### Distances -/

variable {u v : Float32} {a b c d low high : ℝ}

theorem within_difference (hu : Within u a b) (hv : Within v c d) (hlow : Bound .binary32 low)
    (hhigh : Bound .binary32 high) (hge : low ≤ |toReal u - toReal v|)
    (hle : |toReal u - toReal v| ≤ high) :
    Within (u - v) (-high) high ∧ low ≤ |toReal (u - v)| := by
  have hgives := gives_sub hu hv
  refine ⟨hgives.within_abs hhigh hle, ?_⟩
  obtain ⟨hmin, hmax⟩ := abs_le.mp hle
  rcases le_abs.mp hge with hge | hge
  . exact le_abs.mpr (.inl (hgives.within hlow hhigh hge hmax).ge)
  . have hmost := (hgives.within hhigh.neg hlow.neg hmin (le_neg.mp hge)).toReal_le
    exact le_abs.mpr (.inr (le_neg.mp hmost))

theorem within_square (hu : Within u (-high) high) (hge : low ≤ |toReal u|) (hnonneg : 0 ≤ low)
    (hlow : Bound .binary32 (low * low)) (hhigh : Bound .binary32 (high * high)) :
    Within (u * u) (low * low) (high * high) := by
  have hle := hu.abs_toReal_le
  apply (gives_mul hu hu).within hlow hhigh
  . rw [← abs_mul_abs_self (toReal u)]
    exact mul_le_mul hge hge hnonneg (abs_nonneg _)
  . rw [← abs_mul_abs_self (toReal u)]
    exact mul_le_mul hle hle (abs_nonneg _) ((abs_nonneg _).trans hle)

/-- A length in parts of a power of two, on a layout. -/
noncomputable def Layout.length (layout : Layout) (k : Int) (n : Nat) : ℝ :=
  n * 2 ^ k * layout.exactFactor

section Length

variable {k : Int} {m n m' n' : Nat}

theorem Layout.length_nonneg (layout : Layout) (k : Int) (n : Nat) : 0 ≤ layout.length k n := by
  have hpos := layout.exactFactor_pos
  unfold length
  positivity

theorem Layout.length_mul_length (layout : Layout) (k : Int) (n : Nat) :
    layout.length k n * layout.length k n =
      (n * n : Nat) * 2 ^ (2 * k) * (layout.exactFactor * layout.exactFactor) := by
  unfold length
  rw [two_mul, zpow_add₀ (by norm_num : (2 : ℝ) ≠ 0)]
  push_cast
  ring

theorem within_square_difference (hk : -50 ≤ k ∧ k ≤ 50) (hm : m * m < 2 ^ 20)
    (hn : n * n < 2 ^ 20) (hu : Within u a b) (hv : Within v c d)
    (hge : layout.length k m ≤ |toReal u - toReal v|)
    (hle : |toReal u - toReal v| ≤ layout.length k n) :
    Within ((u - v) * (u - v)) (layout.length k m * layout.length k m)
      (layout.length k n * layout.length k n) := by
  have hlength (n : Nat) (hn : n * n < 2 ^ 20) : Bound .binary32 (layout.length k n) :=
    layout.bound_scaled n k rfl (by nlinarith) (by omega)
  have hsquare (n : Nat) (hn : n * n < 2 ^ 20) :
      Bound .binary32 (layout.length k n * layout.length k n) :=
    layout.bound_squared (n * n) (2 * k) (layout.length_mul_length k n) hn (by omega)
  obtain ⟨hdifference, hge⟩ := within_difference hu hv (hlength m hm) (hlength n hn) hge hle
  exact within_square hdifference hge (layout.length_nonneg k m) (hsquare m hm) (hsquare n hn)

theorem within_distance {p q : Point Float32} {least most : Nat} (hp : layout.OnCanvas p)
    (hq : layout.OnCanvas q) (hk : -50 ≤ k ∧ k ≤ 50)
    (hx : layout.length k m ≤ |toReal p.x - toReal q.x| ∧
      |toReal p.x - toReal q.x| ≤ layout.length k n)
    (hy : layout.length k m' ≤ |toReal p.y - toReal q.y| ∧
      |toReal p.y - toReal q.y| ≤ layout.length k n')
    (hsmall : m * m + m' * m' < 2 ^ 20) (hsmall' : n * n + n' * n' < 2 ^ 20)
    (hleast : least * least ≤ m * m + m' * m') (hmost : n * n + n' * n' ≤ most * most)
    (hmost' : most < 2 ^ 22) :
    Within (p.distance q) (layout.length k least) (layout.length k most) := by
  have harea := mul_pos layout.exactFactor_pos layout.exactFactor_pos
  have hadd (m n : Nat) : layout.length k m * layout.length k m +
      layout.length k n * layout.length k n =
        (m * m + n * n : Nat) * 2 ^ (2 * k) * (layout.exactFactor * layout.exactFactor) := by
    rw [layout.length_mul_length, layout.length_mul_length]
    push_cast
    ring
  have hsquarex := within_square_difference hk (by omega) (by omega) hp.x hq.x hx.1 hx.2
  have hsquarey := within_square_difference hk (by omega) (by omega) hp.y hq.y hy.1 hy.2
  have hsum := (gives_add hsquarex hsquarey).within
    (layout.bound_squared _ _ (hadd m m') hsmall (by omega))
    (layout.bound_squared _ _ (hadd n n') hsmall' (by omega))
    (add_le_add hsquarex.le_toReal hsquarey.le_toReal)
    (add_le_add hsquarex.toReal_le hsquarey.toReal_le)
  have hsum_ge := hsum.le_toReal
  have hsum_le := hsum.toReal_le
  rw [hadd] at hsum_ge hsum_le
  have hnonneg := (by positivity : (0 : ℝ) ≤ (m * m + m' * m' : Nat) * 2 ^ (2 * k) *
    (layout.exactFactor * layout.exactFactor))
  apply (gives_sqrt hsum (hnonneg.trans hsum_ge)).within
  . exact layout.bound_scaled least k rfl (by nlinarith) (by omega)
  . exact layout.bound_scaled most k rfl hmost' (by omega)
  . apply Real.le_sqrt_of_sq_le
    rw [pow_two, layout.length_mul_length]
    refine le_trans ?_ hsum_ge
    gcongr
  . rw [Real.sqrt_le_left (layout.length_nonneg k most), pow_two, layout.length_mul_length]
    refine hsum_le.trans ?_
    gcongr

end Length

theorem within_reach (hradius : Within piece.radius (10 * layout.exactFactor)
    (18 * layout.exactFactor)) :
    Within (Contact.robotRadius layout.factor + piece.radius) (30 * layout.exactFactor)
      (38 * layout.exactFactor) := by
  have hrobot : Within (Contact.robotRadius layout.factor : Float32)
      ((20 : Nat) * layout.exactFactor) ((20 : Nat) * layout.exactFactor) :=
    layout.within_scaled (by decide)
  have hle := hradius.le_toReal
  have hge := hradius.toReal_le
  apply (gives_add hrobot hradius).within
  . exact layout.bound_scaled 30 0 (by norm_num) (by decide) (by decide)
  . exact layout.bound_scaled 38 0 (by norm_num) (by decide) (by decide)
  . rw [hrobot.toReal_eq]
    push_cast
    linarith
  . rw [hrobot.toReal_eq]
    push_cast
    linarith

/-! ### Edges -/

namespace Reef

namespace Edge

noncomputable def depth (edge : Edge) (layout : Layout) (p : Point Float32) : ℝ :=
  match edge with
  | top => toReal p.y
  | right => 400 * layout.exactFactor - toReal p.x
  | bottom => 400 * layout.exactFactor - toReal p.y
  | left => toReal p.x

noncomputable def way (edge : Edge) (layout : Layout) (p : Point Float32) : ℝ :=
  match edge with
  | top => toReal p.x
  | right => toReal p.y
  | bottom => 400 * layout.exactFactor - toReal p.x
  | left => 400 * layout.exactFactor - toReal p.y

theorem apart (edge : Edge) (layout : Layout) (p q : Point Float32) :
    (|toReal p.x - toReal q.x| = |edge.way layout p - edge.way layout q| ∧
        |toReal p.y - toReal q.y| = |edge.depth layout p - edge.depth layout q|) ∨
      (|toReal p.x - toReal q.x| = |edge.depth layout p - edge.depth layout q| ∧
        |toReal p.y - toReal q.y| = |edge.way layout p - edge.way layout q|) := by
  have hback (a b : ℝ) : |a - b| =
      |400 * layout.exactFactor - a - (400 * layout.exactFactor - b)| := by
    rw [sub_sub_sub_cancel_left, abs_sub_comm]
  cases edge with
  | top => exact .inl ⟨rfl, rfl⟩
  | right => exact .inr ⟨hback _ _, rfl⟩
  | bottom => exact .inl ⟨hback _ _, hback _ _⟩
  | left => exact .inr ⟨rfl, hback _ _⟩

theorem way_mem (edge : Edge) {p : Point Float32} (h : layout.OnCanvas p) :
    0 ≤ edge.way layout p ∧ edge.way layout p ≤ 400 * layout.exactFactor := by
  obtain ⟨hx, hy⟩ := h
  cases edge with
  | top => exact ⟨hx.le_toReal, hx.toReal_le⟩
  | right => exact ⟨hy.le_toReal, hy.toReal_le⟩
  | bottom => exact ⟨sub_nonneg.mpr hx.toReal_le, sub_le_self _ hx.le_toReal⟩
  | left => exact ⟨sub_nonneg.mpr hy.toReal_le, sub_le_self _ hy.le_toReal⟩

theorem depth_nonneg (edge : Edge) {p : Point Float32} (h : layout.OnCanvas p) :
    0 ≤ edge.depth layout p := by
  obtain ⟨hx, hy⟩ := h
  cases edge with
  | top => exact hy.le_toReal
  | right => exact sub_nonneg.mpr hx.toReal_le
  | bottom => exact sub_nonneg.mpr hy.toReal_le
  | left => exact hx.le_toReal

end Edge

structure Stands (layout : Layout) (cell : Nat) (edge : Edge) (p : Point Float32) : Prop where
  onCanvas : layout.OnCanvas p
  depth_le : edge.depth layout p ≤ 8 * layout.exactFactor
  way_eq : edge.way layout p = ((2 * cell + 1) * 18 : Nat) * layout.exactFactor

theorem Placed.stands {cell : Nat} {edge : Edge} (h : Placed layout cell edge piece)
    (hcell : cell < 11) : Stands layout cell edge piece.position := by
  obtain ⟨inset, hinset, hposition⟩ := h.position
  have hpos := layout.exactFactor_pos
  have hsize := layout.within_canvasSize
  have halong := within_along layout hcell
  have hfar : (((2 * cell + 1) * 18 : Nat) : ℝ) * layout.exactFactor ≤
      400 * layout.exactFactor := by
    have hle : (2 * cell + 1) * 18 ≤ 400 := by omega
    exact mul_le_mul_of_nonneg_right (by exact_mod_cast hle) hpos.le
  have hopposite : Within (layout.canvasSize - inset) (392 * layout.exactFactor)
      (400 * layout.exactFactor) := by
    have hnonneg := hinset.le_toReal
    have hle := hinset.toReal_le
    apply (gives_sub hsize hinset).within
    . exact layout.bound_scaled 392 0 (by norm_num) (by decide) (by decide)
    . exact layout.bound_scaled 400 0 (by norm_num) (by decide) (by decide)
    . rw [hsize.toReal_eq]
      linarith
    . rw [hsize.toReal_eq]
      linarith
  have hback : Within (layout.canvasSize - along layout cell : Float32)
      (400 * layout.exactFactor - ((2 * cell + 1) * 18 : Nat) * layout.exactFactor)
      (400 * layout.exactFactor - ((2 * cell + 1) * 18 : Nat) * layout.exactFactor) := by
    have hgives := gives_sub hsize halong
    rw [hsize.toReal_eq, halong.toReal_eq] at hgives
    apply hgives.exactly
    apply layout.bound_scaled (400 - (2 * cell + 1) * 18) 0 _ (by omega) (by decide)
    rw [zpow_zero, mul_one, Nat.cast_sub (by omega), sub_mul]
    rfl
  have hnear := hinset.mono le_rfl (by linarith : 8 * layout.exactFactor ≤ 400 * layout.exactFactor)
  have hopposite' := hopposite.mono (by linarith : (0 : ℝ) ≤ 392 * layout.exactFactor) le_rfl
  have halong' := halong.mono (by positivity) hfar
  have hback' := hback.mono (sub_nonneg.mpr hfar) (sub_le_self _ (by positivity))
  have hwidth := hopposite.le_toReal
  rw [hposition]
  cases edge with
  | top => exact ⟨⟨halong', hnear⟩, hinset.toReal_le, halong.toReal_eq⟩
  | right =>
    refine ⟨⟨hopposite', halong'⟩, ?_, halong.toReal_eq⟩
    unfold Edge.depth Edge.place
    linarith
  | bottom =>
    refine ⟨⟨hback', hopposite'⟩, ?_, ?_⟩
    . unfold Edge.depth Edge.place
      linarith
    . unfold Edge.way Edge.place
      rw [hback.toReal_eq, sub_sub_cancel]
  | left =>
    refine ⟨⟨hnear, hback'⟩, hinset.toReal_le, ?_⟩
    unfold Edge.way Edge.place
    rw [hback.toReal_eq, sub_sub_cancel]

/-! ### Contacts -/

theorem overlaps_of_near (hrobot : layout.OnCanvas robot) (hpiece : layout.OnCanvas piece.position)
    (hradius : Within piece.radius (10 * layout.exactFactor) (18 * layout.exactFactor))
    {m n : Nat} (hx : |toReal robot.x - toReal piece.position.x| ≤ layout.length (-2) m)
    (hy : |toReal robot.y - toReal piece.position.y| ≤ layout.length (-2) n)
    (hsum : m * m + n * n ≤ 119 * 119) : piece.Overlaps robot layout.factor := by
  have hnothing : layout.length (-2) 0 = 0 := by
    unfold Layout.length
    rw [Nat.cast_zero, zero_mul, zero_mul]
  have hdistance : Within (robot.distance piece.position) (layout.length (-2) 0)
      (layout.length (-2) 119) :=
    within_distance hrobot hpiece (by decide) ⟨hnothing.trans_le (abs_nonneg _), hx⟩
      ⟨hnothing.trans_le (abs_nonneg _), hy⟩ (by decide) (by omega) (by decide) hsum (by decide)
  have hreach := within_reach hradius
  unfold CoralPiece.Overlaps
  rw [lt_iff_toReal hdistance hreach]
  refine (hdistance.toReal_le.trans_lt ?_).trans_le hreach.le_toReal
  have hpos := layout.exactFactor_pos
  unfold Layout.length
  norm_num
  linarith

theorem not_overlaps_of_far (hrobot : layout.OnCanvas robot)
    (hpiece : layout.OnCanvas piece.position)
    (hradius : Within piece.radius (10 * layout.exactFactor) (18 * layout.exactFactor))
    {m n : Nat} (hx : layout.length 0 m ≤ |toReal robot.x - toReal piece.position.x|)
    (hy : layout.length 0 n ≤ |toReal robot.y - toReal piece.position.y|)
    (hsum : 192 * 192 ≤ m * m + n * n) (hsmall : m * m + n * n < 2 ^ 20) :
    ¬ piece.Overlaps robot layout.factor := by
  have hcanvas {a b : Float32} (ha : Within a 0 (400 * layout.exactFactor))
      (hb : Within b 0 (400 * layout.exactFactor)) :
      |toReal a - toReal b| ≤ layout.length 0 400 := by
    unfold Layout.length
    rw [zpow_zero, mul_one]
    exact abs_sub_le_of_nonneg_of_le ha.le_toReal ha.toReal_le hb.le_toReal hb.toReal_le
  have hdistance : Within (robot.distance piece.position) (layout.length 0 192)
      (layout.length 0 566) :=
    within_distance hrobot hpiece (by decide) ⟨hx, hcanvas hrobot.x hpiece.x⟩
      ⟨hy, hcanvas hrobot.y hpiece.y⟩ hsmall (by decide) hsum (by decide) (by decide)
  have hreach := within_reach hradius
  unfold CoralPiece.Overlaps
  rw [lt_iff_toReal hdistance hreach, not_lt]
  refine (hreach.toReal_le.trans ?_).trans hdistance.le_toReal
  have hpos := layout.exactFactor_pos
  unfold Layout.length
  norm_num
  linarith

/-! ### The ring -/

theorem exists_cell {t : ℝ} (h : 0 ≤ t ∧ t ≤ 400 * layout.exactFactor) :
    ∃ cell < 11, |t - ((2 * cell + 1) * 18 : Nat) * layout.exactFactor| ≤
      22 * layout.exactFactor := by
  have hpos := layout.exactFactor_pos
  have hcell : 0 < 36 * layout.exactFactor := by positivity
  let cell := min 10 ⌊t / (36 * layout.exactFactor)⌋₊
  refine ⟨cell, Nat.lt_succ_of_le (min_le_left _ _), ?_⟩
  have hge : cell * (36 * layout.exactFactor) ≤ t := by
    rw [← le_div_iff₀ hcell]
    refine le_trans ?_ (Nat.floor_le (div_nonneg h.1 hcell.le))
    exact_mod_cast min_le_right _ _
  have hle : t ≤ (cell + 1) * (36 * layout.exactFactor) + 4 * layout.exactFactor := by
    -- the cells end before the edge does
    rcases le_or_gt ⌊t / (36 * layout.exactFactor)⌋₊ 10 with hmost | hmost
    . have heq : cell = ⌊t / (36 * layout.exactFactor)⌋₊ := min_eq_right hmost
      have hlt := Nat.lt_floor_add_one (t / (36 * layout.exactFactor))
      rw [← heq, div_lt_iff₀ hcell] at hlt
      linarith
    . have heq : cell = 10 := min_eq_left hmost.le
      rw [heq]
      push_cast
      linarith
  rw [abs_le]
  push_cast
  constructor
  . linarith
  . linarith

namespace Grown

/-- Whoever is clear of coral on the canvas keeps away from all its edges. -/
theorem depth_ge (h : Grown layout coral) (hrobot : layout.OnCanvas robot)
    (hclear : Contact.withCoral? robot layout.factor coral = none) (edge : Edge) :
    20 * layout.exactFactor ≤ edge.depth layout robot := by
  by_contra hnot
  have hpos := layout.exactFactor_pos
  obtain ⟨cell, hcell, hway⟩ := exists_cell (edge.way_mem hrobot)
  obtain ⟨piece, hpiece, hplaced⟩ := h.exists_placed hcell edge
  have hstands := hplaced.stands hcell
  have hway : |edge.way layout robot - edge.way layout piece.position| ≤ layout.length (-2) 88 := by
    rw [hstands.way_eq]
    refine hway.trans_eq ?_
    unfold Layout.length
    norm_num
  have hdepth : |edge.depth layout robot - edge.depth layout piece.position| ≤
      layout.length (-2) 80 := by
    have hnonneg := edge.depth_nonneg hrobot
    have hnonneg' := edge.depth_nonneg hstands.onCanvas
    have hle := hstands.depth_le
    unfold Layout.length
    norm_num
    rw [abs_le]
    constructor
    . linarith
    . linarith
  apply Contact.withCoral?_eq_none_iff.mp hclear piece hpiece
  rcases edge.apart layout robot piece.position with ⟨hx, hy⟩ | ⟨hx, hy⟩
  . exact overlaps_of_near hrobot hstands.onCanvas hplaced.radius (hx.trans_le hway)
      (hy.trans_le hdepth) (by decide)
  . exact overlaps_of_near hrobot hstands.onCanvas hplaced.radius (hx.trans_le hdepth)
      (hy.trans_le hway) (by decide)

theorem clear_center (h : Grown layout coral) {center : Point Float32}
    (hx : Within center.x (200 * layout.exactFactor) (200 * layout.exactFactor))
    (hy : Within center.y (200 * layout.exactFactor) (200 * layout.exactFactor)) :
    Contact.withCoral? center layout.factor coral = none := by
  have hpos := layout.exactFactor_pos
  have hcenter : layout.OnCanvas center :=
    ⟨hx.mono (by linarith) (by linarith), hy.mono (by linarith) (by linarith)⟩
  rw [Contact.withCoral?_eq_none_iff]
  intro piece hpiece
  obtain ⟨cell, hcell, edge, hplaced⟩ := h.placed hpiece
  have hstands := hplaced.stands hcell
  have hmiddle : edge.depth layout center = 200 * layout.exactFactor := by
    cases edge with
    | top => exact hy.toReal_eq
    | left => exact hx.toReal_eq
    | right =>
      unfold Edge.depth
      rw [hx.toReal_eq]
      ring
    | bottom =>
      unfold Edge.depth
      rw [hy.toReal_eq]
      ring
  have hdepth : layout.length 0 192 ≤
      |edge.depth layout center - edge.depth layout piece.position| := by
    refine le_trans ?_ (le_abs_self _)
    have hle := hstands.depth_le
    rw [hmiddle]
    unfold Layout.length
    norm_num
    linarith
  have hway : layout.length 0 0 ≤
      |edge.way layout center - edge.way layout piece.position| := by
    unfold Layout.length
    rw [Nat.cast_zero, zero_mul, zero_mul]
    exact abs_nonneg _
  rcases edge.apart layout center piece.position with ⟨hx, hy⟩ | ⟨hx, hy⟩
  . rw [← hx] at hway
    rw [← hy] at hdepth
    exact not_overlaps_of_far hcenter hstands.onCanvas hplaced.radius hway hdepth (by decide)
      (by decide)
  . rw [← hx] at hdepth
    rw [← hy] at hway
    exact not_overlaps_of_far hcenter hstands.onCanvas hplaced.radius hdepth hway (by decide)
      (by decide)

end Grown

end Reef

end ReefRover
