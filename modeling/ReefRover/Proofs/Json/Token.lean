import ReefRover.Json.Draft
import ReefRover.Proofs.Decimal.Digits
import ReefRover.Proofs.Json.Draft

/-!
This module contains which tokens strings and numbers are lexed to. Escapes of a string are undone
one by one; a numeral comes back as it was if it has no needless zero in front.
-/

namespace ReefRover

namespace Numeral

def Proper (n : Numeral) : Prop :=
  ∃ d later, n.whole = d :: later ∧ (d = Digit.ofNat 0 → later = [])

def signChars (negative : Bool) : List Char :=
  if negative then ['-'] else []

def fractionChars (fraction : List Digit) : List Char :=
  if fraction.isEmpty then [] else '.' :: Digits.toChars fraction

def exponentChars : Option Int → List Char
  | none => []
  | some e => 'e' :: (if e < 0 then '-' else '+') :: Digits.toChars (Digits.ofNat e.natAbs)

theorem toChars_eq (n : Numeral) :
    n.toChars = signChars n.negative ++
      (Digits.toChars n.whole ++ (fractionChars n.fraction ++ exponentChars n.exponent)) := by
  rw [← List.append_assoc, ← List.append_assoc]
  rfl

end Numeral

namespace Json

theorem LexState.tokens_stopped (text : List Char) : LexState.stopped.tokens text = [] := by
  induction text with
  | nil => rfl
  | cons c text ih => exact ih

/-! ### Strings -/

namespace StringDraft

theorem hexDigit?_digitChar {d : Nat} (h : d < 16) : hexDigit? (Nat.digitChar d) = some d := by
  have hall : ∀ d : Fin 16, hexDigit? (Nat.digitChar d.val) = some d.val := by decide
  exact hall ⟨d, h⟩

theorem takeUnit_control {s : StringDraft} {c : Char} (h : c.toNat < 0x20) :
    s.takeUnit c.toNat = s.take c := by
  unfold takeUnit
  rw [if_neg (by omega), if_neg (by omega), Char.ofNat_toNat]

end StringDraft

namespace LexState

open StringDraft

theorem tokens_string_push {s t : StringDraft} {c : Char} {text : List Char}
    (hopen : ¬ (s.part = .text ∧ c = '"')) (hpush : s.push? c = some t) :
    (string s).tokens (c :: text) = (string t).tokens text := by
  rw [tokens, push, if_neg hopen, hpush]
  rfl

theorem tokens_string_close {s : StringDraft} (h : s.part = .text) (text : List Char) :
    (string s).tokens ('"' :: text) = s.token :: between.tokens text := by
  rw [tokens, push, if_pos ⟨h, rfl⟩]
  rfl

theorem tokens_control {c : Char} (h : c.toNat < 0x20) (chars text : List Char) :
    (string { chars }).tokens
        ('\\' :: 'u' :: '0' :: '0' :: Nat.digitChar (c.toNat / 16) ::
          Nat.digitChar (c.toNat % 16) :: text) =
      (string { chars := c :: chars }).tokens text := by
  have hhigh : hexDigit? (Nat.digitChar (c.toNat / 16)) = some (c.toNat / 16) :=
    hexDigit?_digitChar (by omega)
  have hlow : hexDigit? (Nat.digitChar (c.toNat % 16)) = some (c.toNat % 16) :=
    hexDigit?_digitChar (by omega)
  have hcode : 16 * (c.toNat / 16) + c.toNat % 16 = c.toNat := by omega
  have hdigits : (string { part := .unicode 2 0, chars }).tokens
      (Nat.digitChar (c.toNat / 16) :: Nat.digitChar (c.toNat % 16) :: text) =
      (string { chars := c :: chars }).tokens text := by
    rw [tokens_string_push (t := { part := .unicode 1 (c.toNat / 16), chars }),
      tokens_string_push (t := { chars := c :: chars })]
    . simp
    . rw [push?, hlow]
      simp [hcode, takeUnit_control h]
      rfl
    . simp
    . rw [push?, hhigh]
      simp
  exact hdigits

theorem tokens_escapeChar (c : Char) (chars text : List Char) :
    (string { chars }).tokens (escapeChar c ++ text) =
      (string { chars := c :: chars }).tokens text := by
  unfold escapeChar
  split
  case h_8 hquote hbackslash _ _ _ _ _ =>
    split
    . next hcontrol => exact tokens_control hcontrol chars text
    . next hcontrol =>
      apply tokens_string_push
      . simpa using hquote
      . unfold push?
        dsimp only
        rw [if_neg hbackslash, if_neg hcontrol]
        rfl
  all_goals rfl

theorem tokens_escaped (text : List Char) (chars later : List Char) :
    (string { chars }).tokens (text.flatMap escapeChar ++ later) =
      (string { chars := text.reverse ++ chars }).tokens later := by
  induction text generalizing chars with
  | nil => rfl
  | cons c text ih =>
    rw [List.flatMap_cons, List.append_assoc, tokens_escapeChar, ih, List.reverse_cons,
      List.append_assoc]
    rfl

end LexState

theorem lex_stringChars (text : String) (later : List Char) :
    lex (stringChars text ++ later) = .str text :: lex later := by
  have htext := LexState.tokens_escaped text.toList [] ('"' :: later)
  have hquoted : stringChars text ++ later =
      '"' :: (text.toList.flatMap escapeChar ++ '"' :: later) := by
    simp [stringChars]
  rw [List.append_nil] at htext
  rw [hquoted]
  change (LexState.string {}).tokens _ = _
  rw [htext, LexState.tokens_string_close rfl]
  simp [StringDraft.token, lex]

/-! ### Numbers -/

/-- What may follow a number: nothing, a blank, or what parts or closes the values around it. -/
def Parted (text : List Char) : Prop :=
  ∀ c ∈ text.head?, c ∈ [' ', '\t', '\n', '\r', ',', ']', '\x7d']

namespace LexState

theorem tokens_number_push {n m : NumberDraft} {c : Char} (h : n.push? c = some m)
    (text : List Char) : (number n).tokens (c :: text) = (number m).tokens text := by
  rw [tokens, push, h]
  rfl

theorem tokens_digits {n : List Digit → NumberDraft}
    (h : ∀ read d, (n read).push? d.toChar = some (n (d :: read))) (read digits : List Digit)
    (text : List Char) :
    (number (n read)).tokens (Digits.toChars digits ++ text) =
      (number (n (digits.reverse ++ read))).tokens text := by
  induction digits generalizing read with
  | nil => rfl
  | cons d digits ih =>
    rw [Digits.toChars, List.map_cons, List.cons_append, tokens_number_push (h read d)]
    exact (ih (d :: read)).trans (by rw [List.reverse_cons, List.append_assoc]; rfl)

theorem tokens_number_end {n : NumberDraft} {literal : Numeral} (h : n.numeral? = some literal)
    {text : List Char} (htext : Parted text) :
    (number n).tokens text = .num literal :: lex text := by
  cases text with
  | nil =>
    unfold tokens finish
    dsimp only
    rw [h]
    rfl
  | cons c text =>
    have hstop : n.push? c = none ∧ c.isDigit = false := by
      have hc := htext c rfl
      simp only [List.mem_cons, List.not_mem_nil, or_false] at hc
      obtain rfl | rfl | rfl | rfl | rfl | rfl | rfl := hc
      all_goals
        rcases n with ⟨part, negative, whole, fraction, exponentNegative, exponent⟩
        cases part <;> exact ⟨rfl, rfl⟩
    rw [tokens, push, hstop.1]
    dsimp only
    unfold LexStep.afterNumber
    rw [h]
    dsimp only
    rw [if_neg (by simp [hstop.2])]
    rfl

end LexState

namespace NumberDraft

def firstPart (d : Digit) : NumberPart :=
  if d = Digit.ofNat 0 then .zero else .whole

theorem push?_sign (negative : Bool) (d : Digit) :
    push? { part := .sign, negative } d.toChar =
      some { part := firstPart d, negative, whole := [d] } := by
  decide +revert

theorem push?_whole {n : NumberDraft} (h : n.part = .whole) (d : Digit) :
    n.push? d.toChar = some { n with whole := d :: n.whole } := by
  unfold push?
  rw [h, Digit.ofChar?_toChar]

theorem push?_fraction {n : NumberDraft} (h : n.part = .point ∨ n.part = .fraction) (d : Digit) :
    n.push? d.toChar = some { n with part := .fraction, fraction := d :: n.fraction } := by
  unfold push?
  rw [Digit.ofChar?_toChar]
  rcases h with h | h
  . rw [h]
  . rw [h]

theorem push?_exponent {n : NumberDraft} (h : n.part = .exponentSign ∨ n.part = .exponent)
    (d : Digit) :
    n.push? d.toChar = some { n with part := .exponent, exponent := d :: n.exponent } := by
  unfold push?
  rw [Digit.ofChar?_toChar]
  rcases h with h | h
  . rw [h]
  . rw [h]

theorem push?_exponentMark {n : NumberDraft}
    (h : n.part = .zero ∨ n.part = .whole ∨ n.part = .fraction) :
    n.push? 'e' = some { n with part := .exponentMark } := by
  rcases n with ⟨part, negative, whole, fraction, exponentNegative, exponent⟩
  rcases h with rfl | rfl | rfl
  all_goals rfl

theorem push?_exponentSign {n : NumberDraft} (h : n.part = .exponentMark)
    (hsign : n.exponentNegative = false) (e : Int) :
    n.push? (if e < 0 then '-' else '+') =
      some { n with part := .exponentSign, exponentNegative := decide (e < 0) } := by
  rcases n with ⟨part, negative, whole, fraction, exponentNegative, exponent⟩
  cases h
  cases hsign
  by_cases he : e < 0
  . rw [if_pos he, decide_eq_true he]
    rfl
  . rw [if_neg he, decide_eq_false he]
    rfl

theorem numeral?_exponent {n : NumberDraft} {e : Int} (h : n.part = .exponent)
    (hsign : n.exponentNegative = decide (e < 0))
    (hdigits : n.exponent.reverse = Digits.ofNat e.natAbs) :
    n.numeral? =
      some
        { negative := n.negative
          whole := n.whole.reverse
          fraction := n.fraction.reverse
          exponent := some e } := by
  have hvalue : (if decide (e < 0) then -(e.natAbs : Int) else e.natAbs) = e := by
    split
    . next he =>
      rw [Int.ofNat_natAbs_of_nonpos (Int.le_of_lt (of_decide_eq_true he)), Int.neg_neg]
    . next he => exact Int.natAbs_of_nonneg (Int.not_lt.mp (mt decide_eq_true he))
  unfold numeral?
  rw [h, hsign, hdigits, Digits.toNat_ofNat]
  dsimp only
  rw [hvalue]

end NumberDraft

theorem LexStep.begin_toChar (d : Digit) :
    begin d.toChar = ([], .number { part := NumberDraft.firstPart d, whole := [d] }) := by
  decide +revert

open NumberDraft

theorem lex_signed (negative : Bool) (d : Digit) (text : List Char) :
    lex (Numeral.signChars negative ++ d.toChar :: text) =
      (LexState.number { part := firstPart d, negative, whole := [d] }).tokens text := by
  cases negative with
  | true => exact LexState.tokens_number_push (push?_sign true d) text
  | false =>
    unfold lex
    change LexState.between.tokens (d.toChar :: text) = _
    rw [LexState.tokens, LexState.push, LexStep.begin_toChar]
    rfl

theorem lex_whole {n : Numeral} (h : n.Proper) (text : List Char) :
    ∃ part, (part = .zero ∨ part = .whole) ∧
      lex (Numeral.signChars n.negative ++ (Digits.toChars n.whole ++ text)) =
        (LexState.number { part, negative := n.negative, whole := n.whole.reverse }).tokens
          text := by
  obtain ⟨d, later, hwhole, hlater⟩ := h
  have hsigned := lex_signed n.negative d (Digits.toChars later ++ text)
  rw [hwhole]
  change ∃ part, _ ∧ lex (_ ++ d.toChar :: (Digits.toChars later ++ text)) = _
  rw [hsigned]
  by_cases hzero : d = Digit.ofNat 0
  . rw [hlater hzero]
    exact ⟨firstPart d, .inl (if_pos hzero), rfl⟩
  . refine ⟨.whole, .inr rfl, ?_⟩
    have hpart : firstPart d = .whole := if_neg hzero
    have hdigits := LexState.tokens_digits
      (n := fun read => { part := .whole, negative := n.negative, whole := read })
      (fun _ => push?_whole rfl) [d] later text
    rw [hpart, hdigits, List.reverse_cons]

theorem tokens_fraction {n : NumberDraft} (hpart : n.part = .zero ∨ n.part = .whole)
    (hfraction : n.fraction = []) (digits : List Digit) (text : List Char) :
    ∃ part, (part = .zero ∨ part = .whole ∨ part = .fraction) ∧
      (LexState.number n).tokens (Numeral.fractionChars digits ++ text) =
        (LexState.number { n with part, fraction := digits.reverse }).tokens text := by
  rcases n with ⟨part, negative, whole, fraction, exponentNegative, exponent⟩
  cases hfraction
  cases digits with
  | nil => exact ⟨part, hpart.imp_right .inl, rfl⟩
  | cons d later =>
    refine ⟨.fraction, .inr (.inr rfl), ?_⟩
    let point : NumberDraft := ⟨.point, negative, whole, [], exponentNegative, exponent⟩
    let read (digits : List Digit) : NumberDraft :=
      ⟨.fraction, negative, whole, digits, exponentNegative, exponent⟩
    have hpoint : push? ⟨part, negative, whole, [], exponentNegative, exponent⟩ '.' =
        some point := by
      rcases hpart with rfl | rfl
      . rfl
      . rfl
    have hfirst : point.push? d.toChar = some (read [d]) := push?_fraction (.inl rfl) d
    have hdigits := LexState.tokens_digits (n := read) (fun _ => push?_fraction (.inr rfl)) [d]
      later text
    rw [List.reverse_cons]
    exact (LexState.tokens_number_push hpoint _).trans
      ((LexState.tokens_number_push hfirst _).trans hdigits)

theorem tokens_exponent {n : NumberDraft}
    (hpart : n.part = .zero ∨ n.part = .whole ∨ n.part = .fraction) (hexponent : n.exponent = [])
    (hsign : n.exponentNegative = false) (e : Option Int) {text : List Char}
    (htext : Parted text) :
    (LexState.number n).tokens (Numeral.exponentChars e ++ text) =
      .num
        { negative := n.negative
          whole := n.whole.reverse
          fraction := n.fraction.reverse
          exponent := e } :: lex text := by
  rcases n with ⟨part, negative, whole, fraction, exponentNegative, exponent⟩
  cases hexponent
  cases hsign
  cases e with
  | none =>
    apply LexState.tokens_number_end _ htext
    rcases hpart with rfl | rfl | rfl
    all_goals rfl
  | some e =>
    obtain ⟨d, later, hdigits, -⟩ := Digits.ofNat_eq_cons e.natAbs
    -- the sign of the exponent is known before its digits, so it stands in all drafts from here on
    let read (part : NumberPart) (digits : List Digit) : NumberDraft :=
      ⟨part, negative, whole, fraction, decide (e < 0), digits⟩
    have hmark := push?_exponentMark (n := ⟨part, negative, whole, fraction, false, []⟩) hpart
    have hsigned : push? ⟨.exponentMark, negative, whole, fraction, false, []⟩
        (if e < 0 then '-' else '+') = some (read .exponentSign []) :=
      push?_exponentSign rfl rfl e
    have hfirst : (read .exponentSign []).push? d.toChar = some (read .exponent [d]) :=
      push?_exponent (.inl rfl) d
    have hlater := LexState.tokens_digits (n := read .exponent)
      (fun _ => push?_exponent (.inr rfl)) [d] later text
    have hnumeral := numeral?_exponent (n := read .exponent (later.reverse ++ [d])) (e := e) rfl rfl
      (by rw [hdigits]; simp [read])
    unfold Numeral.exponentChars
    dsimp only
    rw [hdigits]
    calc _ = _ := LexState.tokens_number_push hmark _
      _ = _ := LexState.tokens_number_push hsigned _
      _ = _ := LexState.tokens_number_push hfirst _
      _ = _ := hlater
      _ = _ := LexState.tokens_number_end hnumeral htext

theorem lex_numeral {n : Numeral} (h : n.Proper) {text : List Char} (htext : Parted text) :
    lex (n.toChars ++ text) = .num n :: lex text := by
  obtain ⟨part, hpart, hwhole⟩ :=
    lex_whole h (Numeral.fractionChars n.fraction ++ (Numeral.exponentChars n.exponent ++ text))
  obtain ⟨part', hpart', hfraction⟩ :=
    tokens_fraction (n := { part, negative := n.negative, whole := n.whole.reverse }) hpart rfl
      n.fraction (Numeral.exponentChars n.exponent ++ text)
  have hexponent := tokens_exponent
    (n := { part := part'
            negative := n.negative
            whole := n.whole.reverse
            fraction := n.fraction.reverse }) hpart' rfl rfl n.exponent htext
  rw [Numeral.toChars_eq, List.append_assoc, List.append_assoc, List.append_assoc, hwhole,
    hfraction, hexponent]
  simp

end Json

end ReefRover
