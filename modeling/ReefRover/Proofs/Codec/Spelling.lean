import ReefRover.Proofs.Codec.Program

/-!
This module contains that the meaning of a program text does not depend on how its objects are
written. Whatever the order of their members, with other members between them or by the places of
their fields, and with any blanks, the same program is loaded.
-/

namespace ReefRover

namespace Program

/--
A program of finite numbers, all of which are read back where they are written alone, is loaded from
every text of blanks and words for a respelling of what it is saved as, if that nests at most 127
deep and all numbers in it that are none of the program are within the range of double precision.
-/
theorem respelled_programs_load (p : Program Float32)
    (hfinite : ∀ x ∈ numbers p, x.isFinite = true)
    (hreads : ∀ x ∈ numbers p, x.isFinite = true → Json.ReadsBack x) (j : Json)
    (hj : Json.Respells (toJson p) j) (hdepth : j.depth ≤ 127)
    (hadded : ∀ n ∈ j.numerals, n ∉ (toJson p).numerals → n.number?.isSome) (text : String)
    (htext : Json.Spaced j.tokens text.toList) : ofText text = .ok p := by
  have hreads' : ∀ x ∈ numbers p, Json.ReadsBack x := fun x hx => hreads x hx (hfinite x hx)
  have hnumerals : ∀ n ∈ j.numerals, n.number?.isSome := by
    intro n hn
    by_cases hmem : n ∈ (toJson p).numerals
    . exact (proper_of_readsBack hreads' n hmem).2
    . exact hadded n hn hmem
  exact ofText_respelled (returns_of_readsBack hreads') hj hdepth hnumerals htext.lex_eq

/-- A member whose number is beyond double precision is not passed over. -/
theorem number_beyond_double_is_refused :
    ¬ ∀ (p : Program Float32), (∀ x ∈ numbers p, x.isFinite = true) →
      (∀ x ∈ numbers p, x.isFinite = true → Json.ReadsBack x) →
      ∀ j, Json.Respells (toJson p) j → j.depth ≤ 127 →
      ∀ text : String, Json.Spaced j.tokens text.toList → ofText text = .ok p := by
  intro hall
  let note : Json := .num { whole := [1], exponent := some 400 }
  let j : Json := .arr [.obj [("op", .str "break"), ("note", note)]]
  have hnumbers : numbers ([.breakLoop] : Program Float32) = [] := by
    simp [numbers, blocks_eq, Op.bodies, Op.numbers, Op.conditions]
  have hj : Json.Respells (toJson [.breakLoop]) j :=
    .items (.cons (.tagged (.obj .nil (.refl _) (by simp))) .nil)
  have hproper : ∀ n ∈ j.numerals, n.Proper := by
    intro n hn
    obtain rfl := List.mem_singleton.mp hn
    exact ⟨1, [], rfl, fun _ => rfl⟩
  have hloads := hall [.breakLoop] (by simp [hnumbers]) (by simp [hnumbers]) j hj (by decide)
    j.render (Json.spaced_render hproper)
  have hrefused : (ofText j.render).toOption.isNone = true := by decide +kernel
  rw [hloads] at hrefused
  cases hrefused

theorem respelled_programs_load_of_three_blocks :
    let p : Program Float32 :=
      [.action (.wait none), .waitUntil (.not (.boolean true)), Op.turn .left 90]
    let text := "[ [\"wait\"],\n" ++
      "\x7b\"note\":null,\"condition\":\x7b\"operand\":[\"boolean\",true],\"kind\":\"not\"\x7d," ++
      "\"op\":\"waitUntil\",\"note\":[1]\x7d\t, [\"turn\",\"left\",90.0]]"
    Json.ReadsBack 90 ∧ ofText text = .ok p := by
  intro p text
  let truth : Json := .arr [.str "boolean", .bool true]
  let condition : Json := .obj [("operand", truth), ("kind", .str "not")]
  let waiting : Json := .obj
    [("note", .null), ("condition", condition), ("op", .str "waitUntil"), ("note", .arr [.nat 1])]
  let turning : Json := .arr [.str "turn", .str "left", .single 90]
  let j : Json := .arr [.arr [.str "wait"], waiting, turning]
  have hwait : Json.Respells (Op.toJson (.action (.wait none))) (.arr [.str "wait"]) :=
    .tagged (.arr (.drop .nothing .nil))
  have htruth : Json.Respells (Expr.toJson (.boolean true)) truth :=
    .tagged (.arr (.place (.value (.same _)) .nil))
  have hcondition : Json.Respells (Expr.toJson (.not (.boolean true))) condition :=
    .tagged (.obj (.keep (.value htruth) .nil) (.swap _ _ _) (by simp))
  have hmembers : List.Perm _ [("op", .str "waitUntil"), ("condition", condition), ("note", .null),
      ("note", .arr [.nat 1])] :=
    (List.reverse_perm [("op", .str "waitUntil"), ("condition", condition),
      ("note", .null)]).append_right [("note", .arr [.nat 1])]
  have hwaiting : Json.Respells (Op.toJson (.waitUntil (.not (.boolean true)))) waiting :=
    .tagged (.obj (.keep (.value hcondition) .nil) hmembers (by simp))
  have hturning : Json.Respells (Op.toJson (Op.turn .left 90)) turning :=
    .tagged (.arr (.place (.value (.same _)) (.place (.value (.same _)) .nil)))
  have hj : Json.Respells (toJson p) j :=
    .items (.cons hwait (.cons hwaiting (.cons hturning .nil)))
  have hreads : Json.ReadsBack 90 := by decide +kernel
  have htext : Json.Spaced j.tokens text.toList := by
    have hchars : text.toList =
        '[' :: ' ' :: ((Json.arr [.str "wait"]).toChars ++ ',' :: '\n' :: (waiting.toChars ++
          '\t' :: ',' :: ' ' :: (turning.toChars ++ [']']))) := by decide +kernel
    have hwaiting' : ∀ n ∈ waiting.numerals, n.Proper := by
      intro n hn
      obtain rfl := List.mem_singleton.mp hn
      exact Numeral.proper_ofNat 1
    have hturning' : ∀ n ∈ turning.numerals, n.Proper := by
      simpa [turning, Json.numerals, Json.itemsNumerals] using hreads.proper
    rw [hchars]
    have hlast : Json.Spaced (turning.tokens ++ [.closeArr]) (turning.toChars ++ [']']) :=
      Json.spaced_toChars hturning' (by simp [Json.Parted]) (.mark rfl .nil)
    have hsecond := Json.spaced_toChars hwaiting' (by simp [Json.Parted])
      (.blank (c := '\t') rfl (.mark (c := ',') rfl (.blank (c := ' ') rfl hlast)))
    have hfirst := Json.spaced_toChars (j := .arr [.str "wait"]) (List.forall_mem_nil _)
      (by simp [Json.Parted]) (.mark (c := ',') rfl (.blank (c := '\n') rfl hsecond))
    exact .mark rfl (.blank rfl hfirst)
  have hnumbers : numbers p = [90] := by
    simp [p, numbers, blocks_eq, Op.bodies, Op.numbers, Action.number?, Op.conditions, Op.turn]
    rfl
  have hadded : ∀ n ∈ j.numerals, n.number?.isSome := by decide +kernel
  refine ⟨hreads, respelled_programs_load p ?_ ?_ j hj (by decide +kernel)
    (fun n hn _ => hadded n hn) text htext⟩
  . rw [hnumbers]
    decide
  . simp [hnumbers, hreads]

end Program

end ReefRover
