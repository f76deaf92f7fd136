import ReefRover.Proofs.Json.Spacing

/-!
This module contains that what has the tokens of a value is read as the draft of that value, with
nothing after it.
-/

namespace ReefRover

namespace Json

namespace Reader

theorem push_wantFirstItem {token : Token} (h : token ≠ .closeArr) (stack : List Open) :
    push (.wantFirstItem stack) token = push (.wantValue (.arr [] :: stack)) token := by
  cases token with
  | closeArr => exact absurd rfl h
  | _ => rfl

end Reader

open Reader

theorem tokens_eq_cons (j : Json) :
    ∃ token later, j.tokens = token :: later ∧ token ≠ .closeArr := by
  cases j with
  | null | bool value | num literal | str text => exact ⟨_, _, rfl, nofun⟩
  | arr items => cases items <;> exact ⟨_, _, rfl, nofun⟩
  | obj members => cases members <;> exact ⟨_, _, rfl, nofun⟩

theorem foldl_push_wantFirstItem (j : Json) (stack : List Open) :
    j.tokens.foldl push (.wantFirstItem stack) =
      j.tokens.foldl push (.wantValue (.arr [] :: stack)) := by
  obtain ⟨token, later, htokens, hfirst⟩ := j.tokens_eq_cons
  rw [htokens, List.foldl_cons, push_wantFirstItem hfirst, List.foldl_cons]

mutual

theorem foldl_push_tokens (j : Json) (stack : List Open) :
    j.tokens.foldl push (.wantValue stack) = put j.toDraft stack := by
  cases j with
  | null | bool value | num literal | str text => rfl
  | arr items =>
    cases items with
    | nil => rfl
    | cons item items =>
      -- the first item comes where the array could still end, which makes no difference to it
      have hitem := foldl_push_tokens item (.arr [] :: stack)
      rw [← foldl_push_wantFirstItem] at hitem
      unfold tokens
      rw [List.foldl_cons, List.foldl_append]
      change (itemsTokens items).foldl push (item.tokens.foldl push (.wantFirstItem stack)) = _
      rw [hitem]
      exact foldl_push_itemsTokens items [item.toDraft] stack
  | obj members =>
    cases members with
    | nil => rfl
    | cons member members =>
      have hvalue := foldl_push_tokens member.2 (.member [] (.str member.1) :: stack)
      unfold tokens
      rw [List.foldl_cons, List.foldl_cons, List.foldl_cons, List.foldl_append]
      change (membersTokens members).foldl push (member.2.tokens.foldl push
        (.wantValue (.member [] (.str member.1) :: stack))) = _
      rw [hvalue]
      exact foldl_push_membersTokens members [(.str member.1, member.2.toDraft)] stack

theorem foldl_push_itemsTokens (items : List Json) (seen : List Draft) (stack : List Open) :
    (itemsTokens items).foldl push (.afterItem seen stack) =
      put (.arr (seen.reverse ++ itemsToDraft items)) stack := by
  cases items with
  | nil =>
    rw [itemsToDraft, List.append_nil]
    rfl
  | cons item items =>
    have hitem := foldl_push_tokens item (.arr seen :: stack)
    have hlater := foldl_push_itemsTokens items (item.toDraft :: seen) stack
    unfold itemsTokens itemsToDraft
    rw [List.foldl_cons, List.foldl_append]
    change (itemsTokens items).foldl push
      (item.tokens.foldl push (.wantValue (.arr seen :: stack))) = _
    rw [hitem]
    refine hlater.trans ?_
    rw [List.reverse_cons, List.append_assoc]
    rfl

theorem foldl_push_membersTokens (members : List (String × Json)) (seen : List (Draft × Draft))
    (stack : List Open) :
    (membersTokens members).foldl push (.afterMember seen stack) =
      put (.obj (seen.reverse ++ membersToDraft members)) stack := by
  cases members with
  | nil =>
    rw [membersToDraft, List.append_nil]
    rfl
  | cons member members =>
    have hvalue := foldl_push_tokens member.2 (.member seen (.str member.1) :: stack)
    have hlater :=
      foldl_push_membersTokens members ((.str member.1, member.2.toDraft) :: seen) stack
    unfold membersTokens membersToDraft
    rw [List.foldl_cons, List.foldl_cons, List.foldl_cons, List.foldl_append]
    change (membersTokens members).foldl push (member.2.tokens.foldl push
      (.wantValue (.member seen (.str member.1) :: stack))) = _
    rw [hvalue]
    refine hlater.trans ?_
    rw [List.reverse_cons, List.append_assoc]
    rfl

end

theorem read_of_tokens {j : Json} {text : String} (h : lex text.toList = j.tokens) :
    read text = { root := j.toDraft, trailing := false } := by
  unfold read
  rw [h, foldl_push_tokens]
  rfl

theorem decode_of_tokens {α : Type} {decoder : Decoder Draft α} {j : Json} {text : String}
    (h : lex text.toList = j.tokens) : decode decoder text = decoder j.toDraft := by
  unfold decode
  rw [read_of_tokens h]
  cases hdraft : decoder j.toDraft with
  | error e => simp [hdraft, bind, Except.bind]
  | ok a => simp [hdraft, bind, Except.bind, pure, Except.pure]

theorem decode_render {α : Type} {decoder : Decoder Draft α} {j : Json}
    (h : ∀ n ∈ j.numerals, n.Proper) : decode decoder j.render = decoder j.toDraft :=
  decode_of_tokens (lex_render h)

end Json

end ReefRover
