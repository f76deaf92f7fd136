import ReefRover.Proofs.Codec.Op
import ReefRover.Proofs.Decimal.Defined

/-!
This module contains that programs survive saving and loading. A program is written in such a way
that it is loaded as it was, if what is written nests no deeper than a text may; and what is loaded
from any text nests, when it is written, no deeper than that text.
-/

namespace ReefRover

open Json (Tagged)

namespace Op

theorem bodyToJson_eq (body : Program Float32) : bodyToJson body = body.map toJson := by
  induction body with
  | nil => rfl
  | cons op body ih => rw [bodyToJson, List.map_cons, ih]

theorem accepts_within {op : Op Float32} {room fuel : Nat} (hroom : room ≤ fuel)
    (hconditions : ∀ condition ∈ op.conditions, ∀ x ∈ condition.literals, Json.Returns x)
    (hbodies : ∀ body ∈ op.bodies, ∀ j, Json.Respells (Program.toJson body) j → j.depth ≤ room →
      Json.list (ofJson fuel) j = .ok body)
    (hnumbers : ∀ number ∈ op.numbers, Json.Returns number.2) :
    (tagged (Expr.ofJson fuel) (Json.list (ofJson fuel))).Accepts (Json.Given (Json.Within room))
      op.toJson op := by
  refine accepts (Json.leaves_within room) ⟨?_, ?_, hnumbers⟩
  . intro condition hmem
    exact .within condition.toJson_ne_null fun j hj hdepth =>
      Expr.ofJson_respelled (hconditions condition hmem) hj (Nat.le_trans hdepth hroom)
  . intro body hmem
    exact .within nofun (hbodies body hmem)

end Op

namespace Program

theorem depth_toJson_le_iff {p : Program Float32} {limit : Nat} :
    (toJson p).depth ≤ limit + 1 ↔ ∀ op ∈ p, op.toJson.depth ≤ limit := by
  rw [Json.depth_le_iff_parts]
  change (∀ part ∈ Op.bodyToJson p, part.depth ≤ limit) ↔ _
  rw [Op.bodyToJson_eq, List.forall_mem_map]

theorem numerals_toJson {p : Program Float32} {n : Numeral} (h : n ∈ (toJson p).numerals) :
    ∃ x ∈ numbers p, Numeral.ofSingle? x = some n := by
  induction p using bodyInduction with
  | step p ih =>
    have hparts := (forall_numbers_iff (N := (· ∈ numbers p)) (p := p)).mp fun _ => id
    obtain hnum | ⟨part, hpart, hn⟩ := Json.mem_numerals_iff.mp h
    . cases hnum
    . change part ∈ Op.bodyToJson p at hpart
      rw [Op.bodyToJson_eq] at hpart
      obtain ⟨op, hop, rfl⟩ := List.mem_map.mp hpart
      obtain hnum | ⟨part, hpart, hn⟩ := Json.mem_numerals_iff.mp hn
      . obtain ⟨tag, fields, hobj⟩ := op.toJson_eq_obj
        rw [hobj] at hnum
        cases hnum
      . cases Op.isPart_of_mem_parts hpart with
        | leaf hdepth hnumerals =>
          rw [hnumerals] at hn
          cases hn
        | number hx => exact ⟨_, (hparts op hop).numbers _ hx, Json.numerals_single hn⟩
        | condition hcondition =>
          obtain ⟨x, hx, hxn⟩ := Expr.numerals_toJson hn
          exact ⟨x, (hparts op hop).conditions _ hcondition x hx, hxn⟩
        | body hbody =>
          obtain ⟨x, hx, hxn⟩ := ih op hop _ hbody hn
          exact ⟨x, (hparts op hop).bodies _ hbody x hx, hxn⟩

/-! ### What is written is decoded -/

theorem exists_items {p : Program Float32} {j : Json} (h : Json.Respells (toJson p) j) :
    ∃ items, j = .arr items ∧
      List.Forall₂ (fun op item => Json.Respells (Op.toJson op) item) p items := by
  obtain ⟨items, rfl, hitems⟩ := h.exists_items
  rw [Op.bodyToJson_eq, List.forall₂_map_left_iff] at hitems
  exact ⟨items, rfl, hitems⟩

theorem list_respelled {p : Program Float32} (h : ∀ x ∈ numbers p, Json.Returns x) {j : Json}
    (hj : Json.Respells (toJson p) j) {fuel : Nat} (hfuel : j.depth ≤ fuel + 1) :
    Json.list (Op.ofJson fuel) j = .ok p := by
  induction p using bodyInduction generalizing j fuel with
  | step p ih =>
    obtain ⟨items, rfl, hitems⟩ := exists_items hj
    rw [Json.depth_le_iff_parts] at hfuel
    refine mapM_eq_ok_of_forall₂ hitems fun op hop item hitem hrespells => ?_
    obtain ⟨hconditions, hbodies, hnumbers⟩ := forall_numbers_iff.mp h op hop
    obtain ⟨tag, fields, hobj⟩ := op.toJson_eq_obj
    obtain ⟨room, rfl, hspells⟩ := hrespells.exists_spells hobj (hfuel item hitem)
    refine (Op.accepts_within (Nat.le_refl room) hconditions ?_ hnumbers).ofJson_eq hspells
    intro body hmem j hj hdepth
    exact ih op hop body hmem (hbodies body hmem) hj (Nat.le_succ_of_le hdepth)

/-! ### What is decoded nests no less when it is written -/

variable {N : Float32 → Prop}

theorem list_sound {fuel limit : Nat} {j : Json} {p : Program Float32}
    (hop : ∀ j op, Op.ofJson fuel j = .ok op → op.toJson.depth ≤ j.depth ∧
      op.Parts (fun condition => ∀ x ∈ condition.literals, N x)
        (fun body => ∀ x ∈ numbers body, N x) N)
    (hj : j.depth ≤ limit) (h : Json.list (Op.ofJson fuel) j = .ok p) :
    (toJson p).depth ≤ limit ∧ ∀ x ∈ numbers p, N x := by
  unfold Json.list at h
  split at h
  . next items =>
    obtain ⟨room, rfl⟩ : ∃ room, limit = room + 1 := Nat.exists_eq_add_one_of_ne_zero (by
      rintro rfl
      cases hj)
    rw [Json.depth_le_iff_parts] at hj
    constructor
    . rw [depth_toJson_le_iff]
      intro op hmem
      obtain ⟨item, hitem, hdecode⟩ := exists_arg_of_mapM h hmem
      exact Nat.le_trans (hop item op hdecode).1 (hj item hitem)
    . rw [forall_numbers_iff]
      intro op hmem
      obtain ⟨item, hitem, hdecode⟩ := exists_arg_of_mapM h hmem
      exact (hop item op hdecode).2
  . obtain ⟨shape, hshape, h⟩ := bind_eq_ok_iff.mp h
    cases h

end Program

namespace Op

variable {N : Float32 → Prop}

theorem ofJson_sound (hnumber : ∀ j x, Json.singleField j = .ok x → N x) {fuel : Nat} {j : Json}
    {op : Op Float32} (h : ofJson fuel j = .ok op) :
    op.toJson.depth ≤ j.depth ∧ op.Parts (fun condition => ∀ x ∈ condition.literals, N x)
      (fun body => ∀ x ∈ Program.numbers body, N x) N := by
  induction fuel generalizing j op with
  | zero => cases h
  | succ fuel ih =>
    change (tagged (Expr.ofJson fuel) (Json.list (ofJson fuel))).ofJson j = .ok op at h
    obtain ⟨limit, hlimit⟩ := Tagged.depth_of_ofJson h
    have hparts : ∀ part ∈ j.parts, part.depth ≤ limit :=
      Json.depth_le_iff_parts.mp (Nat.le_of_eq hlimit)
    have hexpr : ∀ (j : Json) (c : Expr Float32), j.depth ≤ limit → Expr.ofJson fuel j = .ok c →
        c.toJson.depth ≤ limit ∧ ∀ x ∈ c.literals, N x := by
      intro j c hj hc
      exact (Expr.ofJson_sound hnumber hc).imp_left fun hdepth => Nat.le_trans hdepth hj
    have hbody : ∀ (j : Json) (b : Program Float32), j.depth ≤ limit →
        Json.list (ofJson fuel) j = .ok b →
        (Program.toJson b).depth ≤ limit ∧ ∀ x ∈ Program.numbers b, N x := by
      intro j b hj hb
      exact Program.list_sound (fun j op => ih) hj hb
    obtain ⟨hconditions, hbodies, hnumbers⟩ := parts_of_ofJson hexpr hbody hnumber hparts h
    rw [hlimit]
    constructor
    . exact depth_toJson_le (fun c hc => (hconditions c hc).1) fun b hb => (hbodies b hb).1
    . exact ⟨fun c hc => (hconditions c hc).2, fun b hb => (hbodies b hb).2, hnumbers⟩

end Op

namespace Program

open Json (bracketLimit)

theorem itemsToDraft_eq (items : List Json) : Json.itemsToDraft items = items.map Json.toDraft := by
  induction items with
  | nil => rfl
  | cons item items ih => rw [Json.itemsToDraft, List.map_cons, ih]

theorem ofText_of_tokens {items : List Json} {text : String}
    (h : Json.lex text.toList = (Json.arr items).tokens) :
    ofText text = items.mapM fun item => Op.ofDraft (bracketLimit - 1) item.toDraft := by
  unfold ofText
  rw [Json.decode_of_tokens h, Json.toDraft, itemsToDraft_eq]
  exact List.mapM_map

theorem ofText_respelled {p : Program Float32} (h : ∀ x ∈ numbers p, Json.Returns x) {j : Json}
    (hj : Json.Respells (toJson p) j) (hdepth : j.depth ≤ bracketLimit)
    (hnumerals : ∀ n ∈ j.numerals, n.number?.isSome) {text : String}
    (htext : Json.lex text.toList = j.tokens) : ofText text = .ok p := by
  obtain ⟨items, rfl, hitems⟩ := exists_items hj
  have hdepth' : (Json.arr items).depth ≤ bracketLimit - 1 + 1 := hdepth
  rw [Json.depth_le_iff_parts] at hdepth'
  rw [ofText_of_tokens htext]
  refine mapM_eq_ok_of_forall₂ hitems fun op hop item hitem hrespells => ?_
  obtain ⟨hconditions, hbodies, hnumbers⟩ := forall_numbers_iff.mp h op hop
  obtain ⟨tag, fields, hobj⟩ := op.toJson_eq_obj
  obtain ⟨room, hroom, hspells⟩ := hrespells.exists_spells hobj (hdepth' item hitem)
  -- decoding has more fuel than a text has brackets
  have hfuel : room ≤ bracketLimit := by omega
  refine (Op.accepts_within hfuel hconditions ?_ hnumbers).ofDraft_eq hspells ?_
    (hdepth' item hitem)
  . intro body hmem j hj hj'
    exact list_respelled (hbodies body hmem) hj (by omega)
  . intro n hn
    exact hnumerals n (Json.mem_numerals_iff.mpr (.inr ⟨item, hitem, hn⟩))

theorem ofText_toText {p : Program Float32} (hreturns : ∀ x ∈ numbers p, Json.Returns x)
    (hproper : ∀ n ∈ (toJson p).numerals, n.Proper ∧ n.number?.isSome)
    (hdepth : (toJson p).depth ≤ bracketLimit) : ofText (toText p) = .ok p :=
  ofText_respelled hreturns (.same _) hdepth (fun n hn => (hproper n hn).2)
    (Json.lex_render fun n hn => (hproper n hn).1)

theorem ofText_toText_error {p : Program Float32}
    (hproper : ∀ n ∈ (toJson p).numerals, n.Proper ∧ n.number?.isSome)
    (hdepth : bracketLimit < (toJson p).depth) : ∃ e, ofText (toText p) = .error e := by
  cases hresult : ofText (toText p) with
  | error e => exact ⟨e, rfl⟩
  | ok q =>
    exfalso
    apply Nat.not_le_of_lt hdepth
    have hitems :=
      (ofText_of_tokens (Json.lex_render fun n hn => (hproper n hn).1)).symm.trans hresult
    change (toJson p).depth ≤ bracketLimit - 1 + 1
    rw [Json.depth_le_iff_parts]
    intro item hitem
    obtain ⟨op, -, hdecode⟩ := exists_ok_of_mapM hitems hitem
    obtain ⟨j, hj, -⟩ := Tagged.ofDraft_sound hdecode
    have hnumerals : ∀ n ∈ item.numerals, n.number?.isSome := fun n hn =>
      (hproper n (Json.mem_numerals_iff.mpr (.inr ⟨item, hitem, hn⟩))).2
    rw [Json.Draft.complete?_toDraft hnumerals] at hj
    split at hj
    . assumption
    . cases hj

theorem ofText_sound {N : Float32 → Prop} (hnumber : ∀ j x, Json.singleField j = .ok x → N x)
    {text : String} {p : Program Float32} (h : ofText text = .ok p) :
    (toJson p).depth ≤ bracketLimit ∧ ∀ x ∈ numbers p, N x := by
  obtain ⟨q, hq, h⟩ := bind_eq_ok_iff.mp h
  have hqp : q = p := by
    split at h
    . cases h
    . cases h
      rfl
  rw [hqp] at hq
  have hop : ∀ op ∈ p, op.toJson.depth ≤ bracketLimit - 1 ∧
      op.Parts (fun condition => ∀ x ∈ condition.literals, N x)
        (fun body => ∀ x ∈ numbers body, N x) N := by
    unfold Json.Draft.list at hq
    split at hq
    . next items hroot =>
      intro op hmem
      obtain ⟨item, -, hdecode⟩ := exists_arg_of_mapM hq hmem
      obtain ⟨j, hj, hop⟩ := Tagged.ofDraft_sound hdecode
      have hdecode' : Op.ofJson (bracketLimit + 1) j = .ok op := hop
      have hsound := Op.ofJson_sound hnumber hdecode'
      exact hsound.imp_left fun hdepth => Nat.le_trans hdepth (Json.Draft.depth_of_complete? hj)
    . obtain ⟨shape, hshape, hq⟩ := bind_eq_ok_iff.mp hq
      cases hq
  constructor
  . change (toJson p).depth ≤ bracketLimit - 1 + 1
    rw [depth_toJson_le_iff]
    exact fun op hmem => (hop op hmem).1
  . exact forall_numbers_iff.mpr fun op hmem => (hop op hmem).2

theorem proper_of_readsBack {p : Program Float32} (h : ∀ x ∈ numbers p, Json.ReadsBack x) :
    ∀ n ∈ (toJson p).numerals, n.Proper ∧ n.number?.isSome := by
  intro n hn
  obtain ⟨x, hx, hxn⟩ := numerals_toJson hn
  obtain ⟨m, hm, hproper, hnumber, -⟩ := (h x hx).exists_numeral
  rw [hxn] at hm
  cases hm
  exact ⟨hproper, hnumber⟩

theorem returns_of_readsBack {p : Program Float32} (h : ∀ x ∈ numbers p, Json.ReadsBack x) :
    ∀ x ∈ numbers p, Json.Returns x := by
  intro x hx
  obtain ⟨n, -, -, -, hreturns⟩ := (h x hx).exists_numeral
  exact hreturns

/--
A program of finite numbers, all of which are read back where they are written alone, is loaded as
it was saved if what is saved nests at most 127 deep, and is refused otherwise. In particular a
program that is loaded from any text and holds no infinity is loaded as it was saved.
-/
theorem saved_programs_load :
    (∀ p : Program Float32, (∀ x ∈ numbers p, x.isFinite = true) →
      (∀ x ∈ numbers p, x.isFinite = true → Json.ReadsBack x) →
      ((toJson p).depth ≤ 127 → ofText (toText p) = .ok p) ∧
      (127 < (toJson p).depth → ∃ e, ofText (toText p) = .error e)) ∧
    (∀ (text : String) (p : Program Float32), ofText text = .ok p →
      (∀ x ∈ numbers p, x.isInf = false) →
      (∀ x ∈ numbers p, x.isFinite = true → Json.ReadsBack x) →
      ofText (toText p) = .ok p ∧ ∀ q, ofText (toText p) = .ok q → toText q = toText p) := by
  constructor
  . intro p hfinite hreads
    have hreads' : ∀ x ∈ numbers p, Json.ReadsBack x := fun x hx => hreads x hx (hfinite x hx)
    have hproper := proper_of_readsBack hreads'
    exact ⟨ofText_toText (returns_of_readsBack hreads') hproper, ofText_toText_error hproper⟩
  . intro text p h hinf hreads
    obtain ⟨hdepth, hdefined⟩ := ofText_sound (fun j x => Json.isNaN_of_singleField) h
    have hreads' : ∀ x ∈ numbers p, Json.ReadsBack x := fun x hx =>
      hreads x hx (Single.isFinite_of_defined (hdefined x hx) (hinf x hx))
    have hproper := proper_of_readsBack hreads'
    have hloaded := ofText_toText (returns_of_readsBack hreads') hproper hdepth
    refine ⟨hloaded, fun q hq => ?_⟩
    rw [hloaded] at hq
    cases hq
    rfl

theorem saved_programs_load_of_a_square :
    let square : Program Float32 :=
      [.repeatTimes (some 4) [Op.drive .forward 250.5 .mm, Op.turn .right 90], Op.print "a \"box\""]
    let deep : Program Float32 := [.waitUntil (Nat.iterate .not 125 (.boolean true))]
    let left : Program Float32 := [Op.turn .left 90]
    let text := "[[\"turn\",\x7b\"left\":null\x7d,90]]"
    ofText (toText square) = .ok square ∧ (∃ e, ofText (toText deep) = .error e) ∧
      ofText text = .ok left ∧ ofText (toText left) = .ok left := by
  intro square deep left text
  have hsquare : numbers square = [4, 250.5, 90] := by
    simp [square, numbers, blocks_eq, Op.bodies, Op.numbers, Action.number?, Op.conditions,
      Op.drive, Op.turn, Op.print]
  have hdeep : numbers deep = [] := by
    simp [deep, numbers, blocks_eq, Op.bodies, Op.numbers, Op.conditions]
    rfl
  have hleft : numbers left = [90] := by
    simp [left, numbers, blocks_eq, Op.bodies, Op.numbers, Action.number?, Op.conditions, Op.turn]
  have htext : ofText text = .ok left := by
    have hlex : Json.lex text.toList =
        [.openArr, .openArr, .str "turn", .comma, .openObj, .str "left", .colon, .null, .closeObj,
          .comma, .num { whole := [9, 0] }, .closeArr, .closeArr] := by decide +kernel
    unfold ofText Json.decode Json.read
    rw [hlex]
    rfl
  obtain ⟨hloads, hsaved⟩ := saved_programs_load
  have h4 : Json.ReadsBack 4 := by decide +kernel
  have h250 : Json.ReadsBack 250.5 := by decide +kernel
  have h90 : Json.ReadsBack 90 := by decide +kernel
  refine ⟨(hloads square ?_ ?_).1 ?_, (hloads deep ?_ ?_).2 ?_, htext,
    (hsaved text left htext ?_ ?_).1⟩
  . rw [hsquare]
    decide
  . rw [hsquare]
    simp [h4, h250, h90]
  . decide
  . simp [hdeep]
  . simp [hdeep]
  . decide +kernel
  . rw [hleft]
    decide
  . simp [hleft, h90]

end Program

end ReefRover
