import ReefRover.Json.Fields
import ReefRover.Proofs.Json.Spelling
import ReefRover.Proofs.Result

/-!
This module contains how records are decoded. What is written under the name of a field is found
there; and whether a record is given as an object or as an array, its fields come from the values in
it.
-/

namespace ReefRover

namespace Json

theorem Found.seq_eq_value {α β : Type} {f : Found (α → β)} {x : Found α} {b : β}
    (h : f.seq x = .value b) : ∃ g a, f = .value g ∧ x = .value a ∧ b = g a := by
  cases f with
  | value g =>
    cases x with
    | value a =>
      cases h
      exact ⟨g, a, rfl, rfl, rfl⟩
    | fault position e => cases h
    | missing field => cases h
  | fault position e =>
    cases x with
    | fault position' e' =>
      change (if position' < position then fault position' e' else fault position e) = _ at h
      split at h <;> cases h
    | value a => cases h
    | missing field => cases h
  | missing field =>
    cases x <;> cases h

theorem Found.toExcept_eq_ok {α : Type} {found : Found α} {a : α} (h : found.toExcept = .ok a) :
    found = .value a := by
  cases found with
  | value a' =>
    cases h
    rfl
  | fault position e => cases h
  | missing field => cases h

namespace Fields

variable {σ α β : Type}

/-! ### One field -/

theorem map_fst_occurrences (name : String) (members : List (String × σ)) :
    (occurrences name members).map Prod.fst = members.filter fun m => m.1 == name := by
  conv_rhs => rw [← List.zipIdx_map_fst 0 members, List.filter_map]
  rfl

theorem exists_occurrence {name : String} {member : String × σ} {members : List (String × σ)}
    (h : (members.filter fun m => m.1 == name) = [member]) :
    ∃ i, occurrences name members = [(member, i)] := by
  rw [← map_fst_occurrences, List.map_eq_singleton_iff] at h
  obtain ⟨⟨_, i⟩, hoccurrences, rfl⟩ := h
  exact ⟨i, hoccurrences⟩

variable {name : String} {decode : Decoder σ α} {absent : Found α} {members : List (String × σ)}

theorem single_eq_absent (h : (members.filter fun m => m.1 == name) = []) :
    single name decode absent members = absent := by
  rw [← map_fst_occurrences, List.map_eq_nil_iff] at h
  unfold single
  rw [h]

theorem single_eq_value {v : σ} {a : α} (h : (members.filter fun m => m.1 == name) = [(name, v)])
    (hdecode : decode v = .ok a) : single name decode absent members = .value a := by
  obtain ⟨i, hi⟩ := exists_occurrence h
  unfold single
  rw [hi]
  dsimp only
  rw [hdecode]

/-! ### Fields that are written plainly -/

variable {S : σ → Option σ → Prop}

/-- What is plainly a field is given once under its name, or left out. -/
def Finds (S : σ → Option σ → Prop) (members : List (String × σ)) (field : String × σ) : Prop :=
  ∃ given, S field.2 given ∧
    (members.filter fun m => m.1 == field.1) = given.toList.map (field.1, ·)

theorem finds_of_keeps {fields kept others : List (String × σ)} (h : Keeps S fields kept)
    (hkeys : (fields.map Prod.fst).Nodup) (hmembers : members.Perm (kept ++ others))
    (hothers : ∀ other ∈ others, other.1 ∉ fields.map Prod.fst) :
    ∀ field ∈ fields, Finds S members field := by
  intro field hfield
  obtain ⟨given, hgiven, hkept⟩ := h.exists_given hkeys field hfield
  refine ⟨given, hgiven, ?_⟩
  have hnone : (others.filter fun m => m.1 == field.1) = [] := by
    apply filter_eq_nil_of_key
    intro hmem
    obtain ⟨other, hother, hname⟩ := List.mem_map.mp hmem
    exact hothers other hother (hname ▸ List.mem_map_of_mem hfield)
  have hfilter := hmembers.filter fun m => m.1 == field.1
  rw [List.filter_append, hkept, hnone, List.append_nil] at hfilter
  -- there is at most one such member, so its place among the others makes no difference
  cases given with
  | none => exact hfilter.eq_nil
  | some v => exact List.perm_singleton.mp hfilter

structure Decodes (S : σ → Option σ → Prop) (decode : Decoder σ α) (v : σ) (a : α) : Prop where
  given : ∀ {v'}, S v (some v') → decode v' = .ok a
  present : ¬ S v none

/-- From whatever stands for its plain fields, by name or by place, a record is decoded to `a`. -/
structure Accepts (S : σ → Option σ → Prop) (fields : Fields σ α) (plain : List (String × σ))
    (a : α) : Prop where
  named : ∀ {members}, (∀ field ∈ plain, Finds S members field) → fields.named members = .value a
  placed : ∀ {expected before later values}, Places S (plain ++ later) values →
    ∃ rest, fields.placed expected before values = .ok (a, rest) ∧ Places S later rest

namespace Accepts

variable {plain plain' : List (String × σ)}

theorem pure (a : α) : Accepts S (Pure.pure a) [] a where
  named _ := rfl
  placed h := ⟨_, rfl, h⟩

theorem map {f : α → β} {x : Fields σ α} {a : α} (hx : x.Accepts S plain a) :
    (f <$> x).Accepts S plain (f a) where
  named h := by
    change (Found.value f).seq (x.named _) = _
    rw [hx.named h]
    rfl
  placed h := by
    obtain ⟨rest, hplaced, hrest⟩ := hx.placed h
    refine ⟨rest, bind_eq_ok_iff.mpr ⟨(f, _), rfl, ?_⟩, hrest⟩
    exact bind_eq_ok_iff.mpr ⟨(a, rest), hplaced, rfl⟩

theorem seq {f : Fields σ (α → β)} {x : Fields σ α} {g : α → β} {a : α}
    (hf : f.Accepts S plain g) (hx : x.Accepts S plain' a) :
    (f <*> x).Accepts S (plain ++ plain') (g a) where
  named h := by
    rw [List.forall_mem_append] at h
    change (f.named _).seq (x.named _) = _
    rw [hf.named h.1, hx.named h.2]
    rfl
  placed h := by
    rw [List.append_assoc] at h
    obtain ⟨rest, hfplaced, hrest⟩ := hf.placed h
    obtain ⟨rest', hxplaced, hrest'⟩ := hx.placed hrest
    refine ⟨rest', bind_eq_ok_iff.mpr ⟨(g, rest), hfplaced, ?_⟩, hrest'⟩
    exact bind_eq_ok_iff.mpr ⟨(a, rest'), hxplaced, rfl⟩

theorem required {v : σ} {a : α} (hdecode : Decodes S decode v a) :
    (required name decode).Accepts S [(name, v)] a where
  named h := by
    obtain ⟨given, hgiven, hmembers⟩ := h _ (List.mem_singleton_self _)
    cases given with
    | none => exact absurd hgiven hdecode.present
    | some v' => exact single_eq_value hmembers (hdecode.given hgiven)
  placed h := by
    cases h with
    | place hv h => exact ⟨_, bind_eq_ok_iff.mpr ⟨a, hdecode.given hv, rfl⟩, h⟩
    | drop hv h => exact absurd hv hdecode.present

theorem optional {decode : Decoder σ (Option α)} {v : σ} {a : Option α}
    (hgiven : ∀ {v'}, S v (some v') → decode v' = .ok a) (hnone : S v none → a = none) :
    (optional name decode).Accepts S [(name, v)] a where
  named h := by
    obtain ⟨given, hv, hmembers⟩ := h _ (List.mem_singleton_self _)
    cases given with
    | none =>
      rw [hnone hv]
      exact single_eq_absent hmembers
    | some v' => exact single_eq_value hmembers (hgiven hv)
  placed h := by
    cases h with
    | place hv h => exact ⟨_, bind_eq_ok_iff.mpr ⟨a, hgiven hv, rfl⟩, h⟩
    | drop hv h =>
      rw [hnone hv]
      exact ⟨[], rfl, h⟩

end Accepts

/-! ### Fields without brackets -/

section Leaves

variable {S : Json → Option Json → Prop} {v : Json}

theorem Decodes.leaf {decode : Decoder Json α} {a : α} (hS : Leaves S) (hdepth : v.depth = 0)
    (hdecode : decode v = .ok a) (hnull : v ≠ .null) : Decodes S decode v a where
  given h := by
    obtain hv | ⟨hv, -⟩ := hS v hdepth _ h
    . cases hv
      exact hdecode
    . cases hv
  present h := by
    obtain hv | ⟨-, hv⟩ := hS v hdepth _ h
    . cases hv
    . exact hnull hv

theorem Decodes.text {decode : Decoder Json α} {text : String} {a : α} (hS : Leaves S)
    (hdecode : decode (.str text) = .ok a) : Decodes S decode (.str text) a :=
  .leaf hS rfl hdecode nofun

theorem Decodes.within {decode : Decoder Json α} {a : α} {limit : Nat} (hnull : v ≠ .null)
    (h : ∀ j, Respells v j → j.depth ≤ limit → decode j = .ok a) :
    Decodes (Given (Within limit)) decode v a where
  given hv := by
    cases hv with
    | value hv => exact h _ hv.1 hv.2
  present hv := by
    obtain ⟨j, hj, -⟩ | ⟨-, hv⟩ := hv.eq_some_or
    . cases hj
    . exact hnull hv

theorem Accepts.optional_leaf {decode : Decoder Json (Option α)} {a : Option α} (hS : Leaves S)
    (hdepth : v.depth = 0) (hdecode : decode v = .ok a) (hnull : decode .null = .ok none) :
    (Fields.optional name decode).Accepts S [(name, v)] a := by
  refine .optional (fun h => ?_) fun h => ?_
  . obtain hv | ⟨hv, -⟩ := hS v hdepth _ h
    . cases hv
      exact hdecode
    . cases hv
  . obtain hv | ⟨-, rfl⟩ := hS v hdepth _ h
    . cases hv
    . rw [hnull] at hdecode
      cases hdecode
      rfl

end Leaves

/-! ### Fields as they are written -/

def Plainly (v : σ) (given : Option σ) : Prop :=
  given = some v

theorem finds_plainly (hkeys : (members.map Prod.fst).Nodup) :
    ∀ field ∈ members, Finds Plainly members field := by
  refine finds_of_keeps (.self fun _ _ => rfl) hkeys ?_ (List.forall_mem_nil _)
  rw [List.append_nil]

theorem Decodes.plainly {v : σ} {a : α} (h : decode v = .ok a) : Decodes Plainly decode v a where
  given hv := by
    cases hv
    exact h
  present := nofun

theorem Accepts.optional_plainly {decode : Decoder σ (Option α)} {v : σ} {a : Option α}
    (h : decode v = .ok a) : (Fields.optional name decode).Accepts Plainly [(name, v)] a := by
  refine .optional (fun hv => ?_) nofun
  cases hv
  exact h

def Refuses (fields : Fields σ α) (plain : List (String × σ)) (e : DecodeError) : Prop :=
  ∀ members, (∀ field ∈ plain, Finds Plainly members field) →
    ∃ i, fields.named members = .fault i e

namespace Refuses

variable {plain plain' : List (String × σ)} {e : DecodeError}

theorem seq_left {f : Fields σ (α → β)} {x : Fields σ α} {a : α} (hf : f.Refuses plain e)
    (hx : x.Accepts Plainly plain' a) : (f <*> x).Refuses (plain ++ plain') e := by
  intro members h
  rw [List.forall_mem_append] at h
  obtain ⟨i, hi⟩ := hf members h.1
  refine ⟨i, ?_⟩
  change (f.named members).seq (x.named members) = _
  rw [hi, hx.named h.2]
  rfl

theorem seq_right {f : Fields σ (α → β)} {x : Fields σ α} {g : α → β}
    (hf : f.Accepts Plainly plain g) (hx : x.Refuses plain' e) :
    (f <*> x).Refuses (plain ++ plain') e := by
  intro members h
  rw [List.forall_mem_append] at h
  obtain ⟨i, hi⟩ := hx members h.2
  refine ⟨i, ?_⟩
  change (f.named members).seq (x.named members) = _
  rw [hi, hf.named h.1]
  rfl

theorem required {v : σ} (h : decode v = .error e) :
    (required name decode).Refuses [(name, v)] e := by
  intro members hmembers
  obtain ⟨_, rfl, hfilter⟩ := hmembers _ (List.mem_singleton_self _)
  obtain ⟨i, hi⟩ := exists_occurrence hfilter
  refine ⟨i, ?_⟩
  change single name decode (.missing name) members = _
  unfold single
  rw [hi]
  dsimp only
  rw [h]

end Refuses

/-! ### Where fields come from -/

/-- Whatever is decoded from values that are `Fit`, by name or by place, satisfies `P`. -/
structure Yields (Fit : σ → Prop) (P : α → Prop) (fields : Fields σ α) : Prop where
  named : ∀ {members a}, (∀ member ∈ members, Fit member.2) → fields.named members = .value a → P a
  placed : ∀ {expected before values a later}, (∀ v ∈ values, Fit v) →
    fields.placed expected before values = .ok (a, later) → P a ∧ ∀ v ∈ later, Fit v

variable {Fit : σ → Prop} {P : α → Prop} {Q : β → Prop}

theorem Yields.pure {a : α} (h : P a) : Yields Fit P (Pure.pure a) where
  named := by
    rintro members _ - ⟨⟩
    exact h
  placed := by
    rintro expected before values _ _ hvalues ⟨⟩
    exact ⟨h, hvalues⟩

theorem Yields.map {f : α → β} {x : Fields σ α} (hx : x.Yields Fit P) (h : ∀ a, P a → Q (f a)) :
    (f <$> x).Yields Fit Q where
  named := by
    intro members b hmembers hb
    obtain ⟨g, a, hg, ha, rfl⟩ := Found.seq_eq_value hb
    cases hg
    exact h a (hx.named hmembers ha)
  placed := by
    intro expected before values b later hvalues hb
    obtain ⟨⟨g, values'⟩, hg, hb⟩ := bind_eq_ok_iff.mp hb
    cases hg
    obtain ⟨⟨a, later'⟩, ha, hb⟩ := bind_eq_ok_iff.mp hb
    cases hb
    exact (hx.placed hvalues ha).imp_left (h a)

theorem Yields.seq {f : Fields σ (α → β)} {x : Fields σ α}
    (hf : f.Yields Fit fun g => ∀ a, P a → Q (g a)) (hx : x.Yields Fit P) :
    (f <*> x).Yields Fit Q where
  named := by
    intro members b hmembers hb
    obtain ⟨g, a, hg, ha, rfl⟩ := Found.seq_eq_value hb
    exact hf.named hmembers hg a (hx.named hmembers ha)
  placed := by
    intro expected before values b later hvalues hb
    obtain ⟨⟨g, values'⟩, hg, hb⟩ := bind_eq_ok_iff.mp hb
    obtain ⟨⟨a, later'⟩, ha, hb⟩ := bind_eq_ok_iff.mp hb
    cases hb
    obtain ⟨hQ, hvalues'⟩ := hf.placed hvalues hg
    exact (hx.placed hvalues' ha).imp_left (hQ a)

theorem single_of_value {name : String} {decode : Decoder σ α} {absent : Found α}
    {members : List (String × σ)} {a : α} (h : single name decode absent members = .value a) :
    absent = .value a ∨ ∃ member ∈ members, decode member.2 = .ok a := by
  unfold single at h
  split at h
  . exact .inl h
  . next key v i later hoccurrences =>
    right
    have hmem : ((key, v), i) ∈ occurrences name members := by
      rw [hoccurrences]
      exact List.mem_cons_self
    have hmember := List.fst_mem_of_mem_zipIdx (List.mem_of_mem_filter hmem)
    split at h
    . cases h
    . next hdecode =>
      cases h
      exact ⟨_, hmember, hdecode⟩
    . cases h

theorem Yields.required {name : String} {decode : Decoder σ α}
    (h : ∀ v a, Fit v → decode v = .ok a → P a) : (required name decode).Yields Fit P where
  named := by
    intro members a hmembers ha
    obtain hmissing | ⟨member, hmem, hdecode⟩ := single_of_value ha
    . cases hmissing
    . exact h _ _ (hmembers member hmem) hdecode
  placed := by
    intro expected before values a later hvalues ha
    cases values with
    | nil => cases ha
    | cons v values =>
      obtain ⟨a', hdecode, ha⟩ := bind_eq_ok_iff.mp ha
      cases ha
      rw [List.forall_mem_cons] at hvalues
      exact ⟨h _ _ hvalues.1 hdecode, hvalues.2⟩

theorem Yields.required_any {name : String} {decode : Decoder σ α} :
    (Fields.required name decode).Yields Fit fun _ => True :=
  required fun _ _ _ _ => trivial

theorem Yields.optional {name : String} {decode : Decoder σ (Option α)} {P : Option α → Prop}
    (hnone : P none) (h : ∀ v a, Fit v → decode v = .ok a → P a) :
    (optional name decode).Yields Fit P where
  named := by
    intro members a hmembers ha
    obtain habsent | ⟨member, hmem, hdecode⟩ := single_of_value ha
    . cases habsent
      exact hnone
    . exact h _ _ (hmembers member hmem) hdecode
  placed := by
    intro expected before values a later hvalues ha
    cases values with
    | nil =>
      cases ha
      exact ⟨hnone, hvalues⟩
    | cons v values =>
      obtain ⟨a', hdecode, ha⟩ := bind_eq_ok_iff.mp ha
      cases ha
      rw [List.forall_mem_cons] at hvalues
      exact ⟨h _ _ hvalues.1 hdecode, hvalues.2⟩

theorem Yields.optional_any {name : String} {decode : Decoder σ (Option α)} :
    (Fields.optional name decode).Yields Fit fun _ => True :=
  optional trivial fun _ _ _ _ => trivial

/-! ### Records in a text -/

theorem readable_membersToDraft (members : List (String × Json)) :
    readable (membersToDraft members) = members.map fun member => (member.1, member.2.toDraft) := by
  induction members with
  | nil => rfl
  | cons member members ih =>
    unfold membersToDraft readable
    rw [ih, List.map_cons]

theorem spoiled?_membersToDraft {names : List String} {members : List (String × Json)}
    (h : ∀ member ∈ members, member.1 ∈ names) :
    spoiled? names (membersToDraft members) = none := by
  unfold spoiled?
  induction members with
  | nil => rfl
  | cons member members ih =>
    rw [List.forall_mem_cons] at h
    unfold membersToDraft
    rw [List.findIdx?_cons, ih h.2]
    simp [h.1]

theorem ofDraft_obj {fields : Fields Draft α} {members : List (String × Json)}
    (h : ∀ member ∈ members, member.1 ∈ fields.names) (name : String) :
    fields.ofDraft name (Json.obj members).toDraft =
      (fields.named (members.map fun member => (member.1, member.2.toDraft))).toExcept := by
  simp only [toDraft, ofDraft, spoiled?_membersToDraft h, readable_membersToDraft]

theorem ofDraft_yields {fields : Fields Draft α} {P : α → Prop}
    (hfields : fields.Yields (fun _ => True) P) {name : String} {d : Draft} {a : α}
    (h : fields.ofDraft name d = .ok a) : P a := by
  unfold ofDraft at h
  split at h
  . dsimp only at h
    split at h
    . split at h <;> cases h
    . cases h
    . exact hfields.named (fun _ _ => trivial) (Found.toExcept_eq_ok h)
  . obtain ⟨⟨a', later⟩, hplaced, h⟩ := bind_eq_ok_iff.mp h
    dsimp only at h
    split at h
    . cases h
      exact (hfields.placed (fun _ _ => trivial) hplaced).1
    . cases h
  . obtain ⟨shape, hshape, h⟩ := bind_eq_ok_iff.mp h
    cases h

end Fields

end Json

end ReefRover
