import Mathlib.Logic.Function.Iterate
import ReefRover.Ocean.Reef

/-!
This module contains reefs apart from their generator: how pieces of coral are laid, given the
numbers that are drawn for each of them, and which numbers a generator draws.
-/

namespace ReefRover

namespace Random

variable {α β γ : Type}

theorem run_bind (draw : Random α) (next : α → Random β) (g : Generator) :
    (draw >>= next).run g = (next (draw.run g).1).run (draw.run g).2 :=
  rfl

theorem run_pure (a : α) (g : Generator) : (pure a : Random α).run g = (a, g) :=
  rfl

theorem run_map (f : α → β) (draw : Random α) (g : Generator) :
    (f <$> draw).run g = (f (draw.run g).1, (draw.run g).2) :=
  rfl

theorem run_mapM_cons (draw : α → Random β) (a : α) (as : List α) (g : Generator) :
    (((a :: as).mapM draw).run g).1 =
      ((draw a).run g).1 :: ((as.mapM draw).run ((draw a).run g).2).1 := by
  rw [List.mapM_cons, run_bind, run_bind, run_pure]

/-! ### The generator afterwards -/

theorem run_bind_snd (draw : Random α) (next : α → Random β) (g : Generator) :
    ((draw >>= next).run g).2 = ((next (draw.run g).1).run (draw.run g).2).2 :=
  rfl

theorem run_pure_snd (a : α) (g : Generator) : ((pure a : Random α).run g).2 = g :=
  rfl

theorem run_map_snd (f : α → β) (draw : Random α) (g : Generator) :
    ((f <$> draw).run g).2 = (draw.run g).2 :=
  rfl

theorem run_mapM_snd {draw : α → Random β} {next : Generator → Generator}
    (h : ∀ a g, ((draw a).run g).2 = next g) (as : List α) (g : Generator) :
    ((as.mapM draw).run g).2 = next^[as.length] g := by
  induction as generalizing g with
  | nil => rfl
  | cons a as ih =>
    rw [List.mapM_cons, run_bind_snd, run_bind_snd, run_pure_snd, h, ih, List.length_cons,
      Function.iterate_succ_apply]

def Always (x : Random α) (p : α → Prop) : Prop :=
  ∀ random, p (x.run random).1

theorem always_pure {a : α} {p : α → Prop} (h : p a) : Always (pure a) p :=
  fun _ => h

theorem Always.bind {x : Random α} {f : α → Random β} {q : α → Prop} {p : β → Prop}
    (hx : Always x q) (h : ∀ a, q a → Always (f a) p) : Always (x >>= f) p :=
  fun random => h (x.run random).1 (hx random) (x.run random).2

theorem always_bind {x : Random α} {f : α → Random β} {p : β → Prop}
    (h : ∀ a, Always (f a) p) : Always (x >>= f) p :=
  fun random => h (x.run random).1 (x.run random).2

def stream (draw : Random α) (g : Generator) : Nat → α
  | 0 => (draw.run g).1
  | i + 1 => stream draw (draw.run g).2 i

theorem Always.stream {draw : Random α} {p : α → Prop} (h : Always draw p) (g : Generator)
    (i : Nat) : p (draw.stream g i) := by
  induction i generalizing g with
  | zero => exact h g
  | succ i ih => exact ih (draw.run g).2

theorem run_mapM_map (make : β → α → γ) (draw : Random α) (bs : List β) (g : Generator) :
    ((bs.mapM fun b => make b <$> draw).run g).1 =
      bs.zipIdx.map fun (b, i) => make b (draw.stream g i) := by
  induction bs generalizing g with
  | nil => rfl
  | cons b bs ih =>
    rw [run_mapM_cons, run_map, ih, List.zipIdx_cons, List.map_cons, List.zipIdx_succ, List.map_map]
    rfl

variable {R : Type} [Scalar R]

theorem run_range (low high : R) (g : Generator) :
    ((range low high).run g).1 = ((unit : Random R).run g).1 * (high - low) + low :=
  rfl

theorem run_unit (g : Generator) :
    ((unit : Random R).run g).1 =
      Scalar.ratio ((word.run g).1 >>> 9).toNat (Nat.pow 2 23) :=
  rfl

theorem run_range_snd (low high : R) (g : Generator) :
    ((range low high).run g).2 = g.advance :=
  rfl

theorem exists_ratio_unit (g : Generator) :
    ∃ n < Nat.pow 2 23, ((unit : Random R).run g).1 = Scalar.ratio n (Nat.pow 2 23) := by
  refine ⟨((word.run g).1 >>> 9).toNat, ?_, rfl⟩
  have hlt := (word.run g).1.toNat_lt
  have hshift : ((word.run g).1 >>> 9).toNat = (word.run g).1.toNat / 2 ^ 9 := by
    rw [UInt32.toNat_shiftRight]
    exact Nat.shiftRight_eq_div_pow _ 9
  have hpow : Nat.pow 2 23 = 2 ^ 23 := rfl
  omega

end Random

namespace Reef

structure Draw (R : Type) where
  inset : R
  radius : R
  color : Nat

variable {R : Type} [Scalar R]

def drawing : Random (Draw R) := do
  let inset ← Random.range Scalar.zero Tuning.coralMaxInset
  let radius ← Random.range Tuning.coralMinRadius Tuning.coralMaxRadius
  let color ← Random.index Tuning.coralPalette.length
  return { inset, radius, color }

theorem always_drawing {p q : R → Prop}
    (hinset : (Random.range Scalar.zero Tuning.coralMaxInset).Always p)
    (hradius : (Random.range Tuning.coralMinRadius Tuning.coralMaxRadius).Always q) :
    (drawing : Random (Draw R)).Always fun draw => p draw.inset ∧ q draw.radius := by
  unfold drawing
  refine Random.Always.bind hinset fun inset hinset => ?_
  refine Random.Always.bind hradius fun radius hradius => ?_
  refine Random.always_bind fun color => ?_
  exact Random.always_pure ⟨hinset, hradius⟩

/-- How far along its edge the middle of a cell is. -/
def along (layout : Layout) (cell : Nat) : R :=
  (Scalar.ofNat cell + Scalar.ratio 1 2) * (Tuning.coralSpacing * layout.factor)

def drawnAs (layout : Layout) (cell : Nat) (edge : Edge) (draw : Draw R) : CoralPiece R :=
  { position := edge.place layout.canvasSize (along layout cell) (draw.inset * layout.factor)
    radius := draw.radius * layout.factor
    color := Tuning.coralPalette[draw.color]?.getD 0 }

theorem piece_eq (layout : Layout) (cell : Nat) (edge : Edge) :
    (piece layout cell edge : Random (CoralPiece R)) = drawnAs layout cell edge <$> drawing := by
  unfold piece drawing
  simp only [map_bind, map_pure]
  rfl

def places (R : Type) [Scalar R] (layout : Layout) : List (Nat × Edge) :=
  (List.range (cells R layout)).flatMap fun cell => Edge.all.map fun edge => (cell, edge)

def laid (layout : Layout) (draws : Nat → Draw R) : List (CoralPiece R) :=
  (places R layout).zipIdx.map fun ((cell, edge), i) => drawnAs layout cell edge (draws i)

variable {layout : Layout} {draws : Nat → Draw R}

theorem mem_places_iff {cell : Nat} {edge : Edge} :
    (cell, edge) ∈ places R layout ↔ cell < cells R layout := by
  unfold places
  cases edge <;> simp [Edge.all]

theorem exists_of_mem_laid {piece : CoralPiece R} (h : piece ∈ laid layout draws) :
    ∃ cell < cells R layout, ∃ edge i, piece = drawnAs layout cell edge (draws i) := by
  obtain ⟨⟨⟨cell, edge⟩, i⟩, hplace, rfl⟩ := List.mem_map.mp h
  exact ⟨cell, mem_places_iff.mp (List.fst_mem_of_mem_zipIdx hplace), edge, i, rfl⟩

theorem exists_mem_laid (draws : Nat → Draw R) {cell : Nat} (hcell : cell < cells R layout)
    (edge : Edge) :
    ∃ i, drawnAs layout cell edge (draws i) ∈ laid layout draws := by
  obtain ⟨i, hi⟩ := List.mem_iff_getElem?.mp (mem_places_iff.mpr hcell : (cell, edge) ∈ _)
  exact ⟨i, List.mem_map.mpr ⟨_, List.mk_mem_zipIdx_iff_getElem?.mpr hi, rfl⟩⟩

theorem run_pieces (layout : Layout) (g : Generator) :
    ((pieces layout : Random (List (CoralPiece R))).run g).1 = laid layout (drawing.stream g) := by
  unfold pieces
  dsimp only
  simp only [piece_eq]
  exact Random.run_mapM_map (fun place : Nat × Edge => drawnAs layout place.1 place.2) drawing
    (places R layout) g

theorem length_places (R : Type) [Scalar R] (layout : Layout) :
    (places R layout).length = 4 * cells R layout := by
  unfold places
  rw [List.length_flatMap]
  simp only [List.length_map]
  rw [List.map_const', List.sum_replicate_nat, List.length_range, Nat.mul_comm]
  rfl

theorem drawing_snd (index : Random Nat) (g : Generator) :
    ((do
      let inset ← Random.range Scalar.zero Tuning.coralMaxInset
      let radius ← Random.range Tuning.coralMinRadius Tuning.coralMaxRadius
      let color ← index
      return ({ inset, radius, color } : Draw R)).run g).2 = (index.run g.advance.advance).2 := by
  rw [Random.run_bind_snd, Random.run_bind_snd, Random.run_bind_snd, Random.run_pure_snd,
    Random.run_range_snd, Random.run_range_snd]

theorem piece_snd (layout : Layout) (cell : Nat) (edge : Edge) (g : Generator) :
    ((piece layout cell edge : Random (CoralPiece R)).run g).2 =
      ((Random.index Tuning.coralPalette.length).run g.advance.advance).2 := by
  rw [piece_eq, Random.run_map_snd]
  unfold drawing
  exact drawing_snd _ g

theorem pieces_snd (layout : Layout) (g : Generator) :
    ((pieces layout : Random (List (CoralPiece R))).run g).2 =
      (fun g => ((Random.index Tuning.coralPalette.length).run g.advance.advance).2)^[
        4 * cells R layout] g := by
  rw [← length_places]
  unfold pieces
  exact Random.run_mapM_snd
    (fun place : Nat × Edge => piece_snd (R := R) layout place.1 place.2) (places R layout) g

end Reef

end ReefRover
