import ReefRover.Json.Decode

/-!
This module contains how deep values and drafts nest. A value that is read without gaps is a draft
that can be completed, and it can be completed exactly if there is room for its brackets.
-/

namespace ReefRover

namespace Json

/-! ### Values -/

mutual

/-- The number of brackets that are open at once, at most. -/
def depth : Json → Nat
  | .null | .bool _ | .num _ | .str _ => 0
  | .arr items => itemsDepth items + 1
  | .obj members => membersDepth members + 1

def itemsDepth : List Json → Nat
  | [] => 0
  | item :: items => max item.depth (itemsDepth items)

def membersDepth : List (String × Json) → Nat
  | [] => 0
  | (_, value) :: members => max value.depth (membersDepth members)

end

mutual

def numerals : Json → List Numeral
  | .null | .bool _ | .str _ => []
  | .num literal => [literal]
  | .arr items => itemsNumerals items
  | .obj members => membersNumerals members

def itemsNumerals : List Json → List Numeral
  | [] => []
  | item :: items => item.numerals ++ itemsNumerals items

def membersNumerals : List (String × Json) → List Numeral
  | [] => []
  | (_, value) :: members => value.numerals ++ membersNumerals members

end

mutual

def toDraft : Json → Draft
  | .null => .null
  | .bool value => .bool value
  | .num literal => .num literal
  | .str text => .str text
  | .arr items => .arr (itemsToDraft items)
  | .obj members => .obj (membersToDraft members)

def itemsToDraft : List Json → List Draft
  | [] => []
  | item :: items => item.toDraft :: itemsToDraft items

def membersToDraft : List (String × Json) → List (Draft × Draft)
  | [] => []
  | (key, value) :: members => (.str key, value.toDraft) :: membersToDraft members

end

theorem itemsDepth_le_iff {items : List Json} {limit : Nat} :
    itemsDepth items ≤ limit ↔ ∀ item ∈ items, item.depth ≤ limit := by
  induction items with
  | nil => simp [itemsDepth]
  | cons item items ih => rw [itemsDepth, Nat.max_le, ih, List.forall_mem_cons]

theorem membersDepth_le_iff {members : List (String × Json)} {limit : Nat} :
    membersDepth members ≤ limit ↔ ∀ member ∈ members, member.2.depth ≤ limit := by
  induction members with
  | nil => simp [membersDepth]
  | cons member members ih => rw [membersDepth, Nat.max_le, ih, List.forall_mem_cons]

def parts : Json → List Json
  | .null | .bool _ | .num _ | .str _ => []
  | .arr items => items
  | .obj members => members.map Prod.snd

theorem depth_le_iff_parts {j : Json} {limit : Nat} :
    j.depth ≤ limit + 1 ↔ ∀ part ∈ j.parts, part.depth ≤ limit := by
  cases j with
  | null | bool value | num literal | str text => simp [depth, parts]
  | arr items => rw [depth, parts, Nat.add_le_add_iff_right, itemsDepth_le_iff]
  | obj members =>
    rw [depth, parts, Nat.add_le_add_iff_right, membersDepth_le_iff, List.forall_mem_map]

theorem itemsNumerals_eq (items : List Json) : itemsNumerals items = items.flatMap numerals := by
  induction items with
  | nil => rfl
  | cons item items ih => rw [itemsNumerals, List.flatMap_cons, ih]

theorem membersNumerals_eq (members : List (String × Json)) :
    membersNumerals members = (members.map Prod.snd).flatMap numerals := by
  induction members with
  | nil => rfl
  | cons member members ih => rw [membersNumerals, List.map_cons, List.flatMap_cons, ih]

theorem mem_numerals_iff {j : Json} {n : Numeral} :
    n ∈ j.numerals ↔ j = .num n ∨ ∃ part ∈ j.parts, n ∈ part.numerals := by
  cases j with
  | null | bool value | str text => simp [numerals, parts]
  | num literal => simp [numerals, parts, eq_comm]
  | arr items =>
    rw [numerals, itemsNumerals_eq, List.mem_flatMap]
    simp [parts]
  | obj members =>
    rw [numerals, membersNumerals_eq, List.mem_flatMap]
    simp [parts]

/-! ### Completion -/

namespace Draft

mutual

theorem complete?_toDraft {j : Json} (h : ∀ n ∈ j.numerals, n.number?.isSome) (room : Nat) :
    j.toDraft.complete? room = if j.depth ≤ room then some j else none := by
  cases j with
  | null | bool value | str text => rfl
  | num literal =>
    have hliteral := h literal (List.mem_singleton_self literal)
    exact if_pos hliteral
  | arr items =>
    unfold toDraft complete? depth
    cases room with
    | zero => rfl
    | succ room =>
      rw [Nat.add_sub_cancel, completeItems?_toDraft h]
      by_cases hdepth : itemsDepth items ≤ room
      . simp [hdepth]
      . simp [hdepth]
  | obj members =>
    unfold toDraft complete? depth
    cases room with
    | zero => rfl
    | succ room =>
      rw [Nat.add_sub_cancel, completeMembers?_toDraft h]
      by_cases hdepth : membersDepth members ≤ room
      . simp [hdepth]
      . simp [hdepth]

theorem completeItems?_toDraft {items : List Json}
    (h : ∀ n ∈ itemsNumerals items, n.number?.isSome) (room : Nat) :
    completeItems? room (itemsToDraft items) =
      if itemsDepth items ≤ room then some items else none := by
  cases items with
  | nil => rfl
  | cons item items =>
    rw [itemsNumerals, List.forall_mem_append] at h
    unfold itemsToDraft completeItems? itemsDepth
    rw [complete?_toDraft h.1, completeItems?_toDraft h.2]
    simp only [Nat.max_le]
    by_cases hitem : item.depth ≤ room
    . by_cases hitems : itemsDepth items ≤ room
      . simp [hitem, hitems]
      . simp [hitem, hitems]
    . simp [hitem]

theorem completeMembers?_toDraft {members : List (String × Json)}
    (h : ∀ n ∈ membersNumerals members, n.number?.isSome) (room : Nat) :
    completeMembers? room (membersToDraft members) =
      if membersDepth members ≤ room then some members else none := by
  cases members with
  | nil => rfl
  | cons member members =>
    rw [membersNumerals, List.forall_mem_append] at h
    unfold membersToDraft completeMembers? membersDepth
    rw [complete?_toDraft h.1, completeMembers?_toDraft h.2]
    simp only [Nat.max_le]
    by_cases hvalue : member.2.depth ≤ room
    . by_cases hmembers : membersDepth members ≤ room
      . simp [hvalue, hmembers]
      . simp [hvalue, hmembers]
    . simp [hvalue]

end

mutual

theorem depth_of_complete? {room : Nat} {d : Draft} {j : Json} (h : d.complete? room = some j) :
    j.depth ≤ room := by
  cases d with
  | null | bool value | str text =>
    cases h
    exact Nat.zero_le room
  | num literal =>
    unfold complete? at h
    split at h
    . cases h
      exact Nat.zero_le room
    . cases h
  | unpaired | broken => cases h
  | arr items =>
    unfold complete? at h
    split at h
    . cases h
    . next hroom =>
      obtain ⟨js, hjs, rfl⟩ := Option.map_eq_some_iff.mp h
      have hdepth := depth_of_completeItems? hjs
      unfold depth
      omega
  | obj members =>
    unfold complete? at h
    split at h
    . cases h
    . next hroom =>
      obtain ⟨js, hjs, rfl⟩ := Option.map_eq_some_iff.mp h
      have hdepth := depth_of_completeMembers? hjs
      unfold depth
      omega

theorem depth_of_completeItems? {room : Nat} {items : List Draft} {js : List Json}
    (h : completeItems? room items = some js) : itemsDepth js ≤ room := by
  cases items with
  | nil =>
    cases h
    exact Nat.zero_le room
  | cons item items =>
    unfold completeItems? at h
    obtain ⟨j, hj, h⟩ := Option.bind_eq_some_iff.mp h
    obtain ⟨later, hlater, h⟩ := Option.bind_eq_some_iff.mp h
    cases h
    exact Nat.max_le.mpr ⟨depth_of_complete? hj, depth_of_completeItems? hlater⟩

theorem depth_of_completeMembers? {room : Nat} {members : List (Draft × Draft)}
    {js : List (String × Json)} (h : completeMembers? room members = some js) :
    membersDepth js ≤ room := by
  cases members with
  | nil =>
    cases h
    exact Nat.zero_le room
  | cons member members =>
    rcases member with ⟨key, value⟩
    cases key with
    | str key =>
      unfold completeMembers? at h
      obtain ⟨j, hj, h⟩ := Option.bind_eq_some_iff.mp h
      obtain ⟨later, hlater, h⟩ := Option.bind_eq_some_iff.mp h
      cases h
      exact Nat.max_le.mpr ⟨depth_of_complete? hj, depth_of_completeMembers? hlater⟩
    | null | bool value | num literal | unpaired | arr items | obj members | broken => cases h

end

end Draft

end Json

end ReefRover
