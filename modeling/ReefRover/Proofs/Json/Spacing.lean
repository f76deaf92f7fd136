import ReefRover.Proofs.Json.Token

/-!
This module contains which tokens a text has that is made of words with blanks between them. The
blanks make no difference, and what is written for a value is made of the words for its tokens.
-/

namespace ReefRover

namespace Json

mutual

def tokens : Json → List Token
  | .null => [.null]
  | .bool value => [.bool value]
  | .num literal => [.num literal]
  | .str text => [.str text]
  | .arr [] => [.openArr, .closeArr]
  | .arr (item :: items) => .openArr :: (item.tokens ++ itemsTokens items)
  | .obj [] => [.openObj, .closeObj]
  | .obj ((key, value) :: members) =>
    .openObj :: .str key :: .colon :: (value.tokens ++ membersTokens members)

def itemsTokens : List Json → List Token
  | [] => [.closeArr]
  | item :: items => .comma :: (item.tokens ++ itemsTokens items)

def membersTokens : List (String × Json) → List Token
  | [] => [.closeObj]
  | (key, value) :: members =>
    .comma :: .str key :: .colon :: (value.tokens ++ membersTokens members)

end

/-! ### Words -/

namespace LexState

def run (state : LexState) : List Char → LexStep
  | [] => ([], state)
  | c :: text =>
    let later := (state.push c).2.run text
    ((state.push c).1 ++ later.1, later.2)

theorem tokens_append (state : LexState) (text later : List Char) :
    state.tokens (text ++ later) = (state.run text).1 ++ (state.run text).2.tokens later := by
  induction text generalizing state with
  | nil => rfl
  | cons c text ih =>
    change (state.push c).1 ++ (state.push c).2.tokens (text ++ later) = _
    rw [ih, run, List.append_assoc]

theorem tokens_eq_run (state : LexState) (text : List Char) :
    state.tokens text = (state.run text).1 ++ (state.run text).2.finish := by
  have happend := state.tokens_append text []
  rwa [List.append_nil] at happend

end LexState

def LexStep.ShowsStop (step : LexStep) : Prop :=
  step.2 = .stopped → .bad ∈ step.1

theorem LexStep.showsStop_stop : stop.ShowsStop :=
  fun _ => List.mem_singleton_self _

theorem LexStep.showsStop_begin (c : Char) : (begin c).ShowsStop := by
  unfold begin
  split
  case h_12 =>
    split
    . nofun
    . split
      . nofun
      . exact showsStop_stop
  all_goals nofun

theorem LexStep.showsStop_afterNumber (n : NumberDraft) (c : Char) :
    (afterNumber n c).ShowsStop := by
  unfold afterNumber
  split
  . split
    . exact showsStop_stop
    . exact fun h => List.mem_cons_of_mem _ (showsStop_begin c h)
  . exact showsStop_stop

namespace LexState

theorem showsStop_push {state : LexState} (hstate : state ≠ .stopped) (c : Char) :
    (state.push c).ShowsStop := by
  unfold push
  split
  . exact LexStep.showsStop_begin c
  . split
    . nofun
    . exact LexStep.showsStop_afterNumber _ c
  . split
    . nofun
    . split
      . nofun
      . exact LexStep.showsStop_stop
  . split
    . split <;> nofun
    . exact LexStep.showsStop_stop
  . exact absurd rfl hstate

theorem showsStop_run {state : LexState} (hstate : state ≠ .stopped) (text : List Char) :
    (state.run text).ShowsStop := by
  induction text generalizing state with
  | nil => exact fun h => absurd h hstate
  | cons c text ih =>
    intro h
    by_cases hnext : (state.push c).2 = .stopped
    . exact List.mem_append_left _ (showsStop_push hstate c hnext)
    . exact List.mem_append_right _ (ih hnext h)

end LexState

theorem lex_word_append {word text : List Char} {token : Token} (hword : lex word = [token])
    (hbad : token ≠ .bad) (hparted : ∀ n, token = .num n → Parted text) :
    lex (word ++ text) = token :: lex text := by
  unfold lex at hword ⊢
  rw [LexState.tokens_eq_run] at hword
  rw [LexState.tokens_append]
  -- if the token comes at the end of the word, none came before
  have hlast : ∀ last, (LexState.between.run word).2.finish = [last] →
      (LexState.between.run word).1 = [] ∧ last = token := by
    intro last hfinish
    rw [hfinish] at hword
    obtain ⟨hrun, htoken⟩ := List.append_inj' (hword.trans (List.nil_append [token]).symm) rfl
    exact ⟨hrun, List.singleton_inj.mp htoken⟩
  cases hstate : (LexState.between.run word).2 with
  | between =>
    rw [hstate, LexState.finish, List.append_nil] at hword
    rw [hword]
    rfl
  | number n =>
    rw [hstate, LexState.finish] at hlast
    cases hnumeral : n.numeral? with
    | none =>
      rw [hnumeral] at hlast
      exact absurd (hlast .bad rfl).2.symm hbad
    | some literal =>
      rw [hnumeral] at hlast
      obtain ⟨hrun, rfl⟩ := hlast (.num literal) rfl
      rw [hrun, List.nil_append]
      exact LexState.tokens_number_end hnumeral (hparted literal rfl)
  | string s | word next later token' =>
    rw [hstate] at hlast
    exact absurd (hlast .bad rfl).2.symm hbad
  | stopped =>
    have hmem := LexState.showsStop_run (by decide) word hstate
    rw [hstate, LexState.finish, List.append_nil] at hword
    rw [hword, List.mem_singleton] at hmem
    exact absurd hmem.symm hbad

/-- A text of words for tokens, with any blanks between them. -/
inductive Spaced : List Token → List Char → Prop where
  | nil : Spaced [] []
  | blank {c : Char} {tokens : List Token} {text : List Char} (hc : isBlank c = true)
      (h : Spaced tokens text) : Spaced tokens (c :: text)
  | word {token : Token} {word text : List Char} {tokens : List Token} (hword : lex word = [token])
      (hbad : token ≠ .bad) (hparted : ∀ n, token = .num n → Parted text)
      (h : Spaced tokens text) : Spaced (token :: tokens) (word ++ text)

theorem lex_blank {c : Char} (hc : isBlank c = true) (text : List Char) :
    lex (c :: text) = lex text := by
  unfold isBlank at hc
  simp only [Bool.or_eq_true, beq_iff_eq] at hc
  obtain ((rfl | rfl) | rfl) | rfl := hc
  all_goals rfl

theorem Spaced.lex_eq {tokens : List Token} {text : List Char} (h : Spaced tokens text) :
    lex text = tokens := by
  induction h with
  | nil => rfl
  | blank hc h ih => rw [lex_blank hc, ih]
  | word hword hbad hparted h ih => rw [lex_word_append hword hbad hparted, ih]

/-! ### Values -/

theorem parted_items (items : List Json) (text : List Char) :
    Parted (itemsToChars items ++ text) := by
  cases items with
  | nil => simp [Parted, itemsToChars]
  | cons item items => simp [Parted, itemsToChars]

theorem parted_members (members : List (String × Json)) (text : List Char) :
    Parted (membersToChars members ++ text) := by
  cases members with
  | nil => simp [Parted, membersToChars]
  | cons member members => simp [Parted, membersToChars]

theorem LexStep.token_of_begin {c : Char} {token : Token} (h : begin c = ([token], .between)) :
    token ≠ .bad ∧ ∀ n, token ≠ .num n := by
  unfold begin at h
  split at h
  case h_12 =>
    split at h
    . cases h
    . split at h <;> cases h
  all_goals
    cases h
    try exact ⟨nofun, nofun⟩

theorem Spaced.mark {c : Char} {token : Token} (hmark : LexStep.begin c = ([token], .between))
    {tokens : List Token} {text : List Char} (h : Spaced tokens text) :
    Spaced (token :: tokens) (c :: text) := by
  have hword : lex [c] = [token] := by
    change (LexStep.begin c).1 ++ (LexStep.begin c).2.tokens [] = _
    rw [hmark]
    rfl
  obtain ⟨hbad, hnumber⟩ := LexStep.token_of_begin hmark
  exact .word hword hbad (fun n hn => absurd hn (hnumber n)) h

theorem Spaced.string (text : String) {tokens : List Token} {later : List Char}
    (h : Spaced tokens later) : Spaced (.str text :: tokens) (stringChars text ++ later) := by
  have hword := lex_stringChars text []
  rw [List.append_nil] at hword
  exact .word hword nofun nofun h

theorem Spaced.number {n : Numeral} (hn : n.Proper) {tokens : List Token} {text : List Char}
    (htext : Parted text) (h : Spaced tokens text) :
    Spaced (.num n :: tokens) (n.toChars ++ text) := by
  have hword : lex (n.toChars ++ []) = .num n :: lex [] := lex_numeral hn nofun
  rw [List.append_nil] at hword
  exact .word hword nofun (fun _ _ => htext) h

mutual

theorem spaced_toChars {j : Json} (h : ∀ n ∈ j.numerals, n.Proper) {tokens : List Token}
    {text : List Char} (htext : Parted text) (hspaced : Spaced tokens text) :
    Spaced (j.tokens ++ tokens) (j.toChars ++ text) := by
  cases j with
  | null => exact .word rfl nofun nofun hspaced
  | bool value => cases value <;> exact .word rfl nofun nofun hspaced
  | num literal => exact .number (h literal (List.mem_singleton_self literal)) htext hspaced
  | str value => exact .string value hspaced
  | arr items =>
    cases items with
    | nil => exact .mark rfl (.mark rfl hspaced)
    | cons item items =>
      rw [numerals, itemsNumerals, List.forall_mem_append] at h
      have hitem :=
        spaced_toChars h.1 (parted_items items text) (spaced_itemsToChars h.2 hspaced)
      unfold toChars Json.tokens
      simp only [List.cons_append, List.append_assoc]
      exact .mark rfl hitem
  | obj members =>
    cases members with
    | nil => exact .mark rfl (.mark rfl hspaced)
    | cons member members =>
      rw [numerals, membersNumerals, List.forall_mem_append] at h
      have hvalue :=
        spaced_toChars h.1 (parted_members members text) (spaced_membersToChars h.2 hspaced)
      unfold toChars Json.tokens
      simp only [List.cons_append, List.append_assoc]
      exact .mark rfl (.string member.1 (.mark rfl hvalue))

theorem spaced_itemsToChars {items : List Json} (h : ∀ n ∈ itemsNumerals items, n.Proper)
    {tokens : List Token} {text : List Char} (hspaced : Spaced tokens text) :
    Spaced (itemsTokens items ++ tokens) (itemsToChars items ++ text) := by
  cases items with
  | nil => exact .mark rfl hspaced
  | cons item items =>
    rw [itemsNumerals, List.forall_mem_append] at h
    have hitem := spaced_toChars h.1 (parted_items items text) (spaced_itemsToChars h.2 hspaced)
    unfold itemsToChars itemsTokens
    simp only [List.cons_append, List.append_assoc]
    exact .mark rfl hitem

theorem spaced_membersToChars {members : List (String × Json)}
    (h : ∀ n ∈ membersNumerals members, n.Proper) {tokens : List Token} {text : List Char}
    (hspaced : Spaced tokens text) :
    Spaced (membersTokens members ++ tokens) (membersToChars members ++ text) := by
  cases members with
  | nil => exact .mark rfl hspaced
  | cons member members =>
    rw [membersNumerals, List.forall_mem_append] at h
    have hvalue :=
      spaced_toChars h.1 (parted_members members text) (spaced_membersToChars h.2 hspaced)
    unfold membersToChars membersTokens
    simp only [List.cons_append, List.append_assoc]
    exact .mark rfl (.string member.1 (.mark rfl hvalue))

end

theorem spaced_render {j : Json} (h : ∀ n ∈ j.numerals, n.Proper) :
    Spaced j.tokens j.render.toList := by
  have hparted : Parted [] := nofun
  have hspaced := spaced_toChars h hparted .nil
  rw [List.append_nil, List.append_nil] at hspaced
  unfold render
  rwa [String.toList_ofList]

theorem lex_render {j : Json} (h : ∀ n ∈ j.numerals, n.Proper) :
    lex j.render.toList = j.tokens :=
  (spaced_render h).lex_eq

end Json

end ReefRover
