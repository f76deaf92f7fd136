import ReefRover.Proofs.Json.Draft
import ReefRover.Proofs.Json.Fields

/-!
This module contains how tagged objects are decoded. While a text is read no more is accepted than
from the value that was read, and of that what a tagged object is decoded to comes from its parts.
An object that is written with its tag first is accepted if there is room for its brackets.
-/

namespace ReefRover

namespace Json

theorem Choice.mem_of_select {α : Type} {name : String} {a : α} {choice : Choice α}
    (h : choice.select name = .ok a) : (name, a) ∈ choice := by
  unfold select at h
  split at h
  . next a' hlookup =>
    cases h
    obtain ⟨before, after, rfl, -⟩ := List.lookup_eq_some_iff.mp hlookup
    simp
  . cases h

namespace Tagged

variable {α : Type} {t : Tagged α} {Fit : Json → Prop} {P : α → Prop}

theorem select_mem {name : String} {variant : String × Variant α}
    (h : t.select name = .ok variant) : variant ∈ t.variants := by
  obtain ⟨fields, hfields, h⟩ := bind_eq_ok_iff.mp h
  cases h
  exact Choice.mem_of_select hfields

theorem selectJson_mem {j : Json} {variant : String × Variant α}
    (h : t.selectJson j = .ok variant) : variant ∈ t.variants := by
  obtain ⟨shape, hshape, h⟩ := bind_eq_ok_iff.mp h
  split at h
  . exact select_mem h
  . split at h
    . next hvariant =>
      cases h
      exact List.mem_of_getElem? hvariant
    . cases h
  . cases h

theorem gather_sound {found : Option (String × Variant α)} {variant : String × Variant α}
    {others members rest : List (String × Json)} (hfound : ∀ v ∈ found, v ∈ t.variants)
    (h : t.gather found others members = .ok (variant, rest)) :
    variant ∈ t.variants ∧ ∀ member ∈ rest, member ∈ others ∨ member ∈ members := by
  induction members generalizing found others with
  | nil =>
    unfold gather at h
    split at h
    . cases h
      exact ⟨hfound _ rfl, fun member hmember => .inl (List.mem_reverse.mp hmember)⟩
    . cases h
  | cons member members ih =>
    unfold gather at h
    split at h
    . split at h
      . cases h
      . obtain ⟨variant', hvariant', h⟩ := bind_eq_ok_iff.mp h
        have hmem := selectJson_mem hvariant'
        obtain ⟨hvariant, hrest⟩ := ih (by rintro _ ⟨⟩; exact hmem) h
        refine ⟨hvariant, fun other hother => ?_⟩
        exact (hrest other hother).imp_right (List.mem_cons_of_mem _)
    . obtain ⟨hvariant, hrest⟩ := ih hfound h
      refine ⟨hvariant, fun other hother => ?_⟩
      rcases hrest other hother with hother | hother
      . rcases List.mem_cons.mp hother with rfl | hother
        . exact .inr List.mem_cons_self
        . exact .inl hother
      . exact .inr (List.mem_cons_of_mem _ hother)

theorem ofJson_yields {j : Json} {a : α}
    (hvariants : ∀ variant ∈ t.variants, variant.2.Yields Fit P)
    (hparts : ∀ part ∈ j.parts, Fit part) (h : t.ofJson j = .ok a) : P a := by
  unfold ofJson at h
  split at h
  . next members =>
    obtain ⟨⟨variant, others⟩, hgather, h⟩ := bind_eq_ok_iff.mp h
    have hnone : ∀ v ∈ (none : Option (String × Variant α)), v ∈ t.variants := by
      intro v hv
      cases hv
    obtain ⟨hvariant, hothers⟩ := gather_sound hnone hgather
    have hfit : ∀ member ∈ others, Fit member.2 := by
      intro member hmember
      obtain hnil | hmember := hothers member hmember
      . cases hnil
      . exact hparts _ (List.mem_map_of_mem hmember)
    exact (hvariants variant hvariant).named hfit (Found.toExcept_eq_ok h)
  . cases h
  . next tag items =>
    obtain ⟨variant, hvariant, h⟩ := bind_eq_ok_iff.mp h
    obtain ⟨⟨a', later⟩, hplaced, h⟩ := bind_eq_ok_iff.mp h
    have hitems : ∀ item ∈ items, Fit item := fun item hitem =>
      hparts item (List.mem_cons_of_mem _ hitem)
    have hP := ((hvariants variant (selectJson_mem hvariant)).placed hitems hplaced).1
    dsimp only at h
    split at h
    . cases h
      exact hP
    . cases h
  . obtain ⟨shape, hshape, h⟩ := bind_eq_ok_iff.mp h
    cases h

theorem depth_of_ofJson {j : Json} {a : α} (h : t.ofJson j = .ok a) :
    ∃ limit, j.depth = limit + 1 := by
  cases j with
  | null | bool value | str text => cases h
  | num literal =>
    obtain ⟨shape, hshape, h⟩ := bind_eq_ok_iff.mp h
    cases h
  | arr items => exact ⟨_, rfl⟩
  | obj members => exact ⟨_, rfl⟩

/-! ### Tagged objects in a text -/

theorem selectDraft_sound {d : Draft} {variant : String × Variant α} (room : Nat)
    (h : t.selectDraft d = .ok variant) :
    ∃ j, d.complete? room = some j ∧ t.selectJson j = .ok variant := by
  unfold selectDraft at h
  split at h
  . next name => exact ⟨.str name, rfl, h⟩
  . obtain ⟨shape, hshape, h⟩ := bind_eq_ok_iff.mp h
    cases h

theorem gatherDraft_sound {room : Nat} {found : Option (String × Variant α)}
    {gathered : (String × Variant α) × List (String × Json)} {others : List (String × Json)}
    {members : List (Draft × Draft)}
    (h : t.gatherDraft room found others members = .ok gathered) :
    ∃ js, Draft.completeMembers? room members = some js ∧
      t.gather found others js = .ok gathered := by
  induction members generalizing found others with
  | nil => exact ⟨[], rfl, h⟩
  | cons member members ih =>
    rcases member with ⟨key, v⟩
    cases key with
    | str key =>
      unfold gatherDraft at h
      split at h
      . next hkey =>
        -- the tag is looked at when it is met, and then no second one may follow
        split at h
        . cases h
        . next hfound =>
          obtain ⟨variant, hvariant, h⟩ := bind_eq_ok_iff.mp h
          obtain ⟨j, hj, hselect⟩ := selectDraft_sound room hvariant
          obtain ⟨js, hjs, hgather⟩ := ih h
          refine ⟨(key, j) :: js, ?_, ?_⟩
          . unfold Draft.completeMembers?
            simp [hj, hjs]
          . unfold gather
            rw [if_pos hkey, if_neg hfound, hselect]
            exact hgather
      . next hkey =>
        split at h
        . next j hj =>
          obtain ⟨js, hjs, hgather⟩ := ih h
          refine ⟨(key, j) :: js, ?_, ?_⟩
          . unfold Draft.completeMembers?
            simp [hj, hjs]
          . unfold gather
            rw [if_neg hkey]
            exact hgather
        . cases h
    | null | bool value | num literal | unpaired | arr items | obj members | broken => cases h

theorem ofDraft_sound {room : Nat} {d : Draft} {a : α} (h : t.ofDraft room d = .ok a) :
    ∃ j, d.complete? room = some j ∧ t.ofJson j = .ok a := by
  unfold ofDraft at h
  split at h
  . next members =>
    split at h
    . cases h
    . next hroom =>
      obtain ⟨gathered, hgathered, h⟩ := bind_eq_ok_iff.mp h
      obtain ⟨js, hjs, hgather⟩ := gatherDraft_sound hgathered
      refine ⟨.obj js, ?_, ?_⟩
      . unfold Draft.complete?
        rw [if_neg hroom, hjs]
        rfl
      . exact bind_eq_ok_iff.mpr ⟨gathered, hgather, h⟩
  . next items =>
    by_cases hroom : room = 0
    . rw [hroom] at h
      cases h
    rw [if_neg hroom] at h
    cases items with
    | nil => cases h
    | cons tag items =>
      obtain ⟨variant, hvariant, h⟩ := bind_eq_ok_iff.mp h
      obtain ⟨j, hj, hselect⟩ := selectDraft_sound (room - 1) hvariant
      split at h
      . next js hjs =>
        refine ⟨.arr (j :: js), ?_, ?_⟩
        . unfold Draft.complete? Draft.completeItems?
          simp [hroom, hj, hjs]
        . exact bind_eq_ok_iff.mpr ⟨variant, hselect, h⟩
      . cases h
  . obtain ⟨shape, hshape, h⟩ := bind_eq_ok_iff.mp h
    cases h

/-! ### Spellings of tagged objects -/

variable {members : List (String × Json)}

theorem gather_eq (h : t.tag ∉ members.map Prod.fst) (found : String × Variant α)
    (others : List (String × Json)) :
    t.gather (some found) others members = .ok (found, others.reverse ++ members) := by
  induction members generalizing others with
  | nil => simp [gather]
  | cons member members ih =>
    rw [List.map_cons, List.mem_cons, not_or] at h
    unfold gather
    rw [if_neg (Ne.symm h.1), ih h.2]
    simp

theorem gather_tag {before after : List (String × Json)} (hbefore : t.tag ∉ before.map Prod.fst)
    (hafter : t.tag ∉ after.map Prod.fst) {v : Json} {variant : String × Variant α}
    (hselect : t.selectJson v = .ok variant) (others : List (String × Json)) :
    t.gather none others (before ++ (t.tag, v) :: after) =
      .ok (variant, others.reverse ++ (before ++ after)) := by
  induction before generalizing others with
  | nil =>
    rw [List.nil_append]
    unfold gather
    rw [if_pos rfl, hselect]
    exact gather_eq hafter variant others
  | cons member before ih =>
    rw [List.map_cons, List.mem_cons, not_or] at hbefore
    rw [List.cons_append]
    unfold gather
    rw [if_neg (Ne.symm hbefore.1), ih hbefore.2]
    simp

theorem gatherDraft_membersToDraft {room : Nat}
    (htag : ∀ member ∈ members, member.1 = t.tag → ∃ name, member.2 = .str name)
    (hnumerals : ∀ n ∈ membersNumerals members, n.number?.isSome)
    (hroom : membersDepth members ≤ room) (found : Option (String × Variant α))
    (others : List (String × Json)) :
    t.gatherDraft room found others (membersToDraft members) = t.gather found others members := by
  induction members generalizing found others with
  | nil => rfl
  | cons member members ih =>
    rw [List.forall_mem_cons] at htag
    rw [membersNumerals, List.forall_mem_append] at hnumerals
    rw [membersDepth, Nat.max_le] at hroom
    unfold membersToDraft gatherDraft gather
    split
    . next hkey =>
      obtain ⟨name, hname⟩ := htag.1 hkey
      have hselect : t.selectDraft member.2.toDraft = t.selectJson member.2 := by
        rw [hname]
        rfl
      rw [hselect]
      simp only [ih htag.2 hnumerals.2 hroom.2]
    . rw [Draft.complete?_toDraft hnumerals.1, if_pos hroom.1]
      exact ih htag.2 hnumerals.2 hroom.2 found _

theorem ofItems_eq {S : Json → Option Json → Prop} {fields : Variant α}
    {plain : List (String × Json)} {a : α} (hfields : fields.Accepts S plain a)
    {values : List Json} (hvalues : Places S plain values) (name : String) :
    t.ofItems (name, fields) values = .ok a := by
  rw [← List.append_nil plain] at hvalues
  obtain ⟨later, hplaced, hlater⟩ := hfields.placed hvalues
  cases hlater
  exact bind_eq_ok_iff.mpr ⟨(a, []), hplaced, rfl⟩

inductive Accepts (t : Tagged α) (S : Json → Option Json → Prop) : Json → α → Prop where
  | intro {name : String} {fields : Variant α} {members : List (String × Json)} {a : α}
      (hselect : t.variants.select name = .ok fields)
      (hkeys : (t.tag :: members.map Prod.fst).Nodup) (hfields : fields.Accepts S members a) :
      Accepts t S (.obj ((t.tag, .str name) :: members)) a

namespace Accepts

variable {S : Json → Option Json → Prop} {j j' : Json} {a : α}

theorem ofJson_eq (h : t.Accepts S j a) (hspells : Spells S j j') : t.ofJson j' = .ok a := by
  obtain @⟨name, fields, plain, _, hselect, hkeys, hfields⟩ := h
  have hvariant : t.selectJson (.str name) = .ok (name, fields) :=
    bind_eq_ok_iff.mpr ⟨.str name, rfl, bind_eq_ok_iff.mpr ⟨fields, hselect, rfl⟩⟩
  obtain ⟨htag, hkeys⟩ := List.nodup_cons.mp hkeys
  cases hspells with
  | obj hkept hmembers hothers =>
    obtain ⟨before, after, kept, others, rfl, hrest, hkept, hperm, hothers⟩ :=
      (Spells.obj hkept hmembers hothers).exists_split htag
    rw [List.map_append, List.mem_append, not_or] at hrest
    have hnamed := hfields.named (Fields.finds_of_keeps hkept hkeys hperm hothers)
    refine bind_eq_ok_iff.mpr ⟨_, gather_tag hrest.1 hrest.2 hvariant [], ?_⟩
    exact congrArg Found.toExcept hnamed
  | arr hvalues => exact bind_eq_ok_iff.mpr ⟨_, hvariant, ofItems_eq hfields hvalues name⟩

theorem ofDraft_eq (h : t.Accepts S j a) (hspells : Spells S j j')
    (hnumerals : ∀ n ∈ j'.numerals, n.number?.isSome) {room : Nat} (hroom : j'.depth ≤ room) :
    t.ofDraft room j'.toDraft = .ok a := by
  have hdecode := h.ofJson_eq hspells
  obtain @⟨name, fields, plain, _, hselect, hkeys, hfields⟩ := h
  have htag := (List.nodup_cons.mp hkeys).1
  cases hspells with
  | @obj _ _ _ _ members hkept hmembers hothers =>
    obtain ⟨before, after, _, _, hsplit, hrest, -⟩ :=
      (Spells.obj hkept hmembers hothers).exists_split htag
    have hnames : ∀ member ∈ members, member.1 = t.tag → ∃ name, member.2 = .str name := by
      intro member hmember hname
      have hnot : member ∉ before ++ after := fun hmem =>
        hrest (List.mem_map.mpr ⟨member, hmem, hname⟩)
      rw [hsplit, List.perm_middle.mem_iff, List.mem_cons] at hmember
      rcases hmember with rfl | hmember
      . exact ⟨name, rfl⟩
      . exact absurd hmember hnot
    obtain ⟨room, rfl⟩ := Nat.exists_eq_add_one_of_ne_zero (Nat.ne_zero_of_lt hroom)
    change (t.gatherDraft room none [] (membersToDraft members) >>= fun gathered =>
      ofMembers gathered.1 gathered.2) = _
    rw [gatherDraft_membersToDraft hnames hnumerals (Nat.le_of_succ_le_succ hroom)]
    exact hdecode
  | @arr _ _ values hvalues =>
    obtain ⟨room, rfl⟩ := Nat.exists_eq_add_one_of_ne_zero (Nat.ne_zero_of_lt hroom)
    have hvariant : t.selectDraft (.str name) = .ok (name, fields) :=
      bind_eq_ok_iff.mpr ⟨fields, hselect, rfl⟩
    rw [numerals, itemsNumerals, List.forall_mem_append] at hnumerals
    rw [depth, itemsDepth, Nat.add_le_add_iff_right, Nat.max_le] at hroom
    refine bind_eq_ok_iff.mpr ⟨_, hvariant, ?_⟩
    rw [Nat.add_sub_cancel, Draft.completeItems?_toDraft hnumerals.2, if_pos hroom.2]
    exact ofItems_eq hfields hvalues name

end Accepts

end Tagged

end Json

end ReefRover
