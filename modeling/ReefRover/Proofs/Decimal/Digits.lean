import ReefRover.Decimal.Digits

/-!
This module contains what the digits of a whole number spell: the number itself, and no needless
zero comes first.
-/

namespace ReefRover

theorem Digit.ofChar?_toChar (d : Digit) : ofChar? d.toChar = some d := by
  decide +revert

namespace Digits

theorem toNat_concat (digits : List Digit) (d : Digit) :
    toNat (digits ++ [d]) = 10 * toNat digits + d.val := by
  unfold toNat
  rw [List.foldl_append]
  rfl

theorem go_eq (fuel n : Nat) (later : List Digit) (h : n < fuel) :
    ∃ d digits, ofNat.go fuel n later = d :: digits ++ later ∧ toNat (d :: digits) = n ∧
      (d = Digit.ofNat 0 → n = 0) := by
  induction fuel generalizing n later with
  | zero => cases h
  | succ fuel ih =>
    unfold ofNat.go
    split
    . next hsmall =>
      have hmod : n % 10 = n := Nat.mod_eq_of_lt hsmall
      refine ⟨Digit.ofNat n, [], rfl, ?_, ?_⟩
      . unfold toNat Digit.ofNat
        simp [hmod]
      . intro hzero
        simpa [Digit.ofNat, hmod] using hzero
    . next hlarge =>
      obtain ⟨d, digits, hgo, hvalue, hfirst⟩ :=
        ih (n / 10) (Digit.ofNat n :: later) (by omega)
      refine ⟨d, digits ++ [Digit.ofNat n], ?_, ?_, ?_⟩
      . rw [hgo]
        simp
      . rw [← List.cons_append, toNat_concat, hvalue]
        unfold Digit.ofNat
        dsimp only
        omega
      . intro hzero
        have := hfirst hzero
        omega

theorem toNat_ofNat (n : Nat) : toNat (ofNat n) = n := by
  obtain ⟨d, digits, hgo, hvalue, -⟩ := go_eq (n + 1) n [] (Nat.lt_succ_self n)
  unfold ofNat
  rw [hgo, List.append_nil, hvalue]

theorem ofNat_eq_cons (n : Nat) :
    ∃ d digits, ofNat n = d :: digits ∧ (d = Digit.ofNat 0 → n = 0) := by
  obtain ⟨d, digits, hgo, -, hfirst⟩ := go_eq (n + 1) n [] (Nat.lt_succ_self n)
  refine ⟨d, digits, ?_, hfirst⟩
  unfold ofNat
  rw [hgo, List.append_nil]

end Digits

end ReefRover
