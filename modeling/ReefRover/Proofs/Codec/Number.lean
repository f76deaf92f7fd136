import ReefRover.Program.Codec
import ReefRover.Proofs.Json.Reading
import ReefRover.Proofs.Result

/-!
This module contains how numbers are written. A number of single precision that is read back when it
stands alone is read back wherever it stands: its numeral has no needless zero in front, which a
text could not be read with.
-/

namespace ReefRover

namespace Numeral

theorem proper_ofNat (n : Nat) : (ofNat n).Proper := by
  obtain ⟨first, later, hdigits, hfirst⟩ := Digits.ofNat_eq_cons n
  refine ⟨first, later, hdigits, fun hzero => ?_⟩
  have hnil : Digits.ofNat 0 = [Digit.ofNat 0] := rfl
  rw [hfirst hzero, hnil] at hdigits
  cases hdigits
  rfl

theorem number?_ofNat {n : Nat} (h : n < Nat.pow 2 64) :
    (ofNat n).number? = some (.unsigned n.toUInt64) := by
  unfold number? ofNat
  dsimp only
  rw [Digits.toNat_ofNat, decide_eq_true h]
  rfl

theorem ofDecimal_whole (style : Style) (negative : Bool) (d : Decimal) :
    (ofDecimal style negative d).Proper ∨
      ∃ later, (ofDecimal style negative d).whole = Digit.ofNat 0 :: Digit.ofNat 0 :: later := by
  obtain ⟨first, later, hdigits, hlater⟩ := proper_ofNat d.significand
  change Digits.ofNat d.significand = _ at hdigits
  unfold ofDecimal
  rw [hdigits]
  dsimp only
  split
  . split
    . by_cases hzero : first = Digit.ofNat 0
      . rw [hlater hzero, hzero]
        cases d.exponent.toNat with
        | zero => exact .inl ⟨Digit.ofNat 0, [], rfl, fun _ => rfl⟩
        | succ zeros => exact .inr ⟨List.replicate zeros (Digit.ofNat 0), rfl⟩
      . exact .inl ⟨first, _, rfl, fun h => absurd h hzero⟩
    . split
      . refine .inl ⟨first, _, rfl, fun h => ?_⟩
        rw [hlater h, List.take_nil]
      . exact .inl ⟨Digit.ofNat 0, [], rfl, fun _ => rfl⟩
  . exact .inl ⟨first, [], rfl, fun _ => rfl⟩

theorem isFinite_of_ofSingle? {x : Float32} {n : Numeral} (h : ofSingle? x = some n) :
    x.isFinite = true := by
  unfold ofSingle? at h
  split at h
  . assumption
  . cases h

theorem ofSingle?_whole {x : Float32} {n : Numeral} (h : ofSingle? x = some n) :
    n.Proper ∨ ∃ later, n.whole = Digit.ofNat 0 :: Digit.ofNat 0 :: later := by
  unfold ofSingle? at h
  split at h
  . cases h
    split
    . exact .inl ⟨Digit.ofNat 0, [], rfl, fun _ => rfl⟩
    . exact ofDecimal_whole _ _ _
  . cases h

end Numeral

namespace Json

theorem numerals_single {x : Float32} {n : Numeral} (h : n ∈ (single x).numerals) :
    Numeral.ofSingle? x = some n := by
  unfold single at h
  split at h
  . next literal hliteral => rw [hliteral, List.mem_singleton.mp h]
  . cases h

theorem single_of_not_finite {x : Float32} (h : x.isFinite = false) : single x = .null := by
  have hnone : Numeral.ofSingle? x = none := by
    unfold Numeral.ofSingle?
    rw [h]
    rfl
  unfold single
  rw [hnone]

theorem depth_single (x : Float32) : (single x).depth = 0 := by
  unfold single
  split
  . rfl
  . rfl

theorem lex_zeros (negative : Bool) (text : List Char) :
    lex (Numeral.signChars negative ++ '0' :: '0' :: text) = [.bad] := by
  have hsigned := lex_signed negative (Digit.ofNat 0) ('0' :: text)
  refine hsigned.trans ?_
  change [Token.bad] ++ LexState.stopped.tokens text = _
  rw [LexState.tokens_stopped]
  rfl

/-- A number is decoded as it was written. -/
def Returns (x : Float32) : Prop :=
  singleField (single x) = .ok x

theorem Returns.single_ne_null {x : Float32} (h : Returns x) : single x ≠ .null := by
  intro hnull
  unfold Returns at h
  rw [hnull] at h
  cases h

/-- A number that is written alone is read back. -/
def ReadsBack (x : Float32) : Prop :=
  decode (Draft.scalar Shape.single) (single x).render = .ok x

theorem scalar_toDraft {α : Type} (decoder : Decoder Shape α) (j : Json) :
    Draft.scalar decoder j.toDraft = scalar decoder j := by
  cases j <;> rfl

theorem number?_of_single {n : Numeral} {x : Float32} (h : singleField (.num n) = .ok x) :
    n.number?.isSome := by
  cases hnumber : n.number? with
  | none =>
    have hshape : shape (.num n) = .error .notJson := by
      unfold shape
      dsimp only
      rw [hnumber]
    unfold singleField scalar at h
    rw [hshape] at h
    cases h
  | some m => rfl

instance (x : Float32) : Decidable (ReadsBack x) :=
  decidable_of_iff ((decode (Draft.scalar Shape.single) (single x).render).toOption = some x)
    toOption_eq_some_iff

theorem ReadsBack.exists_numeral {x : Float32} (h : ReadsBack x) :
    ∃ n, Numeral.ofSingle? x = some n ∧ n.Proper ∧ n.number?.isSome ∧ Returns x := by
  unfold ReadsBack at h
  cases hn : Numeral.ofSingle? x with
  | none =>
    have hnull : single x = .null := by
      unfold single
      rw [hn]
    have hnumerals : ∀ n ∈ Json.null.numerals, n.Proper := by
      intro n hn
      cases hn
    rw [hnull, decode_render hnumerals] at h
    cases h
  | some n =>
    have hnum : single x = .num n := by
      unfold single
      rw [hn]
    rw [hnum] at h
    unfold Returns
    rw [hnum]
    rcases Numeral.ofSingle?_whole hn with hproper | ⟨later, hzeros⟩
    . have hnumerals : ∀ m ∈ (Json.num n).numerals, m.Proper := by
        intro m hm
        rw [List.mem_singleton.mp hm]
        exact hproper
      rw [decode_render hnumerals, scalar_toDraft] at h
      exact ⟨n, rfl, hproper, number?_of_single h, h⟩
    -- with a needless zero in front the number would not have been read back
    . have hlex : lex (Json.num n).render.toList = [.bad] := by
        unfold render
        rw [String.toList_ofList]
        change lex n.toChars = _
        rw [Numeral.toChars_eq, hzeros]
        exact lex_zeros n.negative _
      unfold decode read at h
      rw [hlex] at h
      cases h

theorem ReadsBack.proper {x : Float32} (h : ReadsBack x) :
    ∀ n ∈ (single x).numerals, n.Proper := by
  intro n hn
  obtain ⟨m, hm, hproper, -⟩ := h.exists_numeral
  rw [numerals_single hn] at hm
  cases hm
  exact hproper

/-! ### Whole numbers -/

namespace Shape

theorem whole_lt {limit n : Nat} {expected : String} {s : Shape}
    (h : whole limit expected s = .ok n) : n < limit := by
  unfold whole at h
  split at h
  . split at h
    . next hlt =>
      cases h
      exact hlt
    . cases h
  . cases h
  . cases h

theorem whole_ofNat {limit n : Nat} (expected : String) (h : n < limit) (h64 : n < Nat.pow 2 64) :
    Draft.scalar (whole limit expected) (Json.nat n).toDraft = .ok n := by
  have hnat : n.toUInt64.toNat = n := UInt64.toNat_ofNat_of_lt' h64
  unfold Draft.scalar Draft.shape Json.nat Json.toDraft
  dsimp only
  rw [Numeral.number?_ofNat h64]
  change whole limit expected (.number (.unsigned n.toUInt64)) = _
  unfold whole
  dsimp only
  rw [hnat, if_pos h]

end Shape

end Json

end ReefRover
