import ReefRover.Proofs.Codec.Number
import ReefRover.Proofs.Json.Fields
import ReefRover.Scalar.Single
import ReefRover.Settings

/-!
This module contains which settings survive saving and loading. What is written of settings with a
finite spawn interval is loaded as it was; an infinite one is read from a text, but is written as
nothing, and nothing is refused as an interval.
-/

namespace ReefRover

namespace Settings

variable {s : Settings Float32}

open Json.Fields (Accepts Plainly Refuses)

def members (s : Settings Float32) (interval : Json) : List (String × Json) :=
  [("layout", .str s.layout.name),
    ("trash_spawning", .bool s.trashSpawning),
    ("spawn_interval_secs", interval),
    ("max_trash", .nat s.maxTrash),
    ("seed", .optional (fun seed => .nat seed.toNat) s.seed)]

theorem toJson_eq (s : Settings Float32) :
    s.toJson = .obj (s.members (.single s.spawnInterval)) :=
  rfl

theorem accepts_seed (seed : Option UInt64) :
    (Json.Fields.optional "seed"
      (Json.Draft.nullable (Json.Draft.scalar Json.Shape.word64))).Accepts Plainly
      [("seed", (Json.optional (fun seed => .nat (UInt64.toNat seed)) seed).toDraft)] seed := by
  apply Json.Fields.Accepts.optional_plainly
  cases seed with
  | none => rfl
  | some seed =>
    have hwhole := Json.Shape.whole_ofNat "u64" seed.toNat_lt seed.toNat_lt
    obtain ⟨shape, hshape, hwhole⟩ := bind_eq_ok_iff.mp hwhole
    refine bind_eq_ok_iff.mpr ⟨seed, bind_eq_ok_iff.mpr ⟨shape, hshape, ?_⟩, rfl⟩
    refine bind_eq_ok_iff.mpr ⟨seed.toNat, hwhole, ?_⟩
    exact congrArg Except.ok (UInt64.ofNat_toNat (x := seed))

theorem ofDraft_members (hmax : s.maxTrash < Nat.pow 2 64) (interval : Json) :
    fields.ofDraft "Settings" (Json.obj (s.members interval)).toDraft =
      (Json.Draft.scalar Json.Shape.single interval.toDraft).map fun x =>
        { s with spawnInterval := x } := by
  let values := (s.members interval).map fun member => (member.1, member.2.toDraft)
  have hfinds : ∀ field ∈ values, Json.Fields.Finds Plainly values field :=
    Json.Fields.finds_plainly (by simp [values, members])
  have hlayout : (Json.Fields.required "layout" Layout.choice.ofDraft).Accepts Plainly
      [("layout", .str s.layout.name)] s.layout :=
    .required (.plainly (by cases s.layout <;> rfl))
  have htrash : (Json.Fields.required "trash_spawning"
      (Json.Draft.scalar Json.Shape.boolean)).Accepts Plainly
      [("trash_spawning", .bool s.trashSpawning)] s.trashSpawning :=
    .required (.plainly rfl)
  have hfirst := (hlayout.map (f := Settings.mk (R := Float32))).seq htrash
  have hmaxTrash : (Json.Fields.required "max_trash"
      (Json.Draft.scalar Json.Shape.size)).Accepts Plainly
      [("max_trash", (Json.nat s.maxTrash).toDraft)] s.maxTrash :=
    .required (.plainly (Json.Shape.whole_ofNat "usize" hmax hmax))
  rw [Json.Fields.ofDraft_obj (by simp [members]; decide)]
  change (fields.named values).toExcept = _
  unfold fields
  cases hinterval : Json.Draft.scalar Json.Shape.single interval.toDraft with
  | ok x =>
    have hfield : (Json.Fields.required "spawn_interval_secs"
        (Json.Draft.scalar Json.Shape.single)).Accepts Plainly
        [("spawn_interval_secs", interval.toDraft)] x :=
      .required (.plainly hinterval)
    have hall := ((hfirst.seq hfield).seq hmaxTrash).seq (accepts_seed s.seed)
    exact congrArg Json.Found.toExcept (hall.named hfinds)
  | error e =>
    have hfield : (Json.Fields.required "spawn_interval_secs"
        (Json.Draft.scalar Json.Shape.single)).Refuses
        [("spawn_interval_secs", interval.toDraft)] e :=
      .required hinterval
    have hall :=
      ((Refuses.seq_right hfirst hfield).seq_left hmaxTrash).seq_left (accepts_seed s.seed)
    obtain ⟨i, hi⟩ := hall values hfinds
    exact congrArg Json.Found.toExcept hi

theorem proper_toJson (hreads : s.spawnInterval.isFinite = true → Json.ReadsBack s.spawnInterval) :
    ∀ n ∈ s.toJson.numerals, n.Proper := by
  have hinterval : ∀ n ∈ (Json.single s.spawnInterval).numerals, n.Proper := by
    intro n hn
    have hfinite := Numeral.isFinite_of_ofSingle? (Json.numerals_single hn)
    exact (hreads hfinite).proper n hn
  have hnat : ∀ n, ∀ m ∈ (Json.nat n).numerals, m.Proper := by
    intro n m hm
    rw [List.mem_singleton.mp hm]
    exact Numeral.proper_ofNat n
  have hseed : ∀ n ∈ (Json.optional (fun seed => .nat (UInt64.toNat seed)) s.seed).numerals,
      n.Proper := by
    cases s.seed with
    | none => nofun
    | some seed => exact hnat _
  simp only [toJson_eq, members, Json.numerals, Json.membersNumerals, List.nil_append,
    List.append_nil, List.forall_mem_append]
  exact ⟨hinterval, hnat _, hseed⟩

theorem ofText_toText (hmax : s.maxTrash < Nat.pow 2 64)
    (hreads : s.spawnInterval.isFinite = true → Json.ReadsBack s.spawnInterval) :
    ofText s.toText =
      (Json.singleField (.single s.spawnInterval)).map fun x => { s with spawnInterval := x } := by
  unfold ofText toText
  rw [Json.decode_render (proper_toJson hreads), toJson_eq, ofDraft_members hmax,
    Json.scalar_toDraft]
  rfl

theorem maxTrash_of_ofText {text : String} (h : ofText text = .ok s) :
    s.maxTrash < Nat.pow 2 64 := by
  obtain ⟨s', hs', h⟩ := bind_eq_ok_iff.mp h
  split at h
  . cases h
  cases h
  have hmax : (Json.Fields.required "max_trash" (Json.Draft.scalar Json.Shape.size)).Yields
      (fun _ => True) fun n => n < Nat.pow 2 64 :=
    .required fun d n _ hn => by
      obtain ⟨shape, -, hn⟩ := bind_eq_ok_iff.mp hn
      exact Json.Shape.whole_lt hn
  refine Json.Fields.ofDraft_yields (P := fun s => s.maxTrash < Nat.pow 2 64) ?_ hs'
  exact .seq (.seq (.seq (.seq (.map .required_any fun layout _ trashSpawning _ interval _ n hn
    seed _ => hn) .required_any) .required_any) hmax) .optional_any

/--
Settings that are loaded from any text are loaded as they were saved, and so with the spawn interval
that is in force, if their interval is finite. A number beyond single precision is loaded as an
infinite interval, which is saved as nothing, and what is saved is refused.
-/
theorem saved_settings_load (text : String) (s : Settings Float32) (h : ofText text = .ok s)
    (hreads : s.spawnInterval.isFinite = true → Json.ReadsBack s.spawnInterval) :
    (s.spawnInterval.isFinite = true → ofText s.toText = .ok s) ∧
    (s.spawnInterval.isFinite = false →
      ofText s.toText = .error (.invalidType .null "f32")) := by
  have hmax := maxTrash_of_ofText h
  constructor
  . intro hfinite
    obtain ⟨n, -, -, -, hreturns⟩ := (hreads hfinite).exists_numeral
    rw [ofText_toText hmax hreads, hreturns]
    rfl
  . intro hinfinite
    rw [ofText_toText hmax hreads, Json.single_of_not_finite hinfinite]
    rfl

theorem infinite_interval_is_lost :
    ¬ ∀ (text : String) (s : Settings Float32), ofText text = .ok s →
      (s.spawnInterval.isFinite = true → Json.ReadsBack s.spawnInterval) →
      ∃ s', ofText s.toText = .ok s' ∧ s' = s ∧
        s'.effectiveSpawnInterval = s.effectiveSpawnInterval := by
  intro hall
  let never : Settings Float32 := { defaults (R := Float32) with spawnInterval := 1 / 0 }
  have hnever : ofText "[\"Normal\",true,1e39,20]" = .ok never :=
    toOption_eq_some_iff.mp (by decide +kernel)
  obtain ⟨s', hs', -⟩ := hall _ never hnever fun h => absurd h (by decide)
  have hlost : (ofText never.toText).toOption = none := by decide +kernel
  rw [hs'] at hlost
  cases hlost

theorem saved_settings_load_of_two_texts :
    let slow : Settings Float32 :=
      { layout := .enlarged, trashSpawning := false, spawnInterval := 2.5, maxTrash := 5,
        seed := none }
    let never : Settings Float32 := { slow with spawnInterval := 1 / 0, seed := some 7 }
    let text := "\x7b\"seed\":7,\"layout\":\"Enlarged\",\"trash_spawning\":false," ++
      "\"spawn_interval_secs\":1e39,\"max_trash\":5\x7d"
    ofText "[\"Enlarged\",false,2.5,5]" = .ok slow ∧ Json.ReadsBack 2.5 ∧
      ofText slow.toText = .ok slow ∧ ofText text = .ok never ∧
      ofText never.toText = .error (.invalidType .null "f32") := by
  intro slow never text
  have hslow : ofText "[\"Enlarged\",false,2.5,5]" = .ok slow :=
    toOption_eq_some_iff.mp (by decide +kernel)
  have hnever : ofText text = .ok never := toOption_eq_some_iff.mp (by decide +kernel)
  have hreads : Json.ReadsBack 2.5 := by decide +kernel
  refine ⟨hslow, hreads, (saved_settings_load _ slow hslow fun _ => hreads).1 (by decide), hnever,
    (saved_settings_load text never hnever fun h => ?_).2 (by decide)⟩
  exact absurd h (by decide)

end Settings

end ReefRover
