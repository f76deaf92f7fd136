import ReefRover.Proofs.Codec.Expr

/-!
This module contains the written form of blocks: what it is made of, that it is decoded to the block
that was written, and that no other spelling of a block nests less.
-/

namespace ReefRover

open Json (Fields Decoder Tagged)
open Json.Fields (Decodes Yields)

namespace Json

theorem nullable_optional {α : Type} {decode : Decoder Json α} {encode : α → Json} {a : Option α}
    (h : ∀ x ∈ a, decode (encode x) = .ok x) (hnull : ∀ x, decode .null ≠ .ok x) :
    nullable decode (optional encode a) = .ok a := by
  cases a with
  | none => rfl
  | some x =>
    have hx := h x rfl
    change nullable decode (encode x) = .ok (some x)
    unfold nullable
    split
    . next hencode =>
      rw [hencode] at hx
      exact absurd hx (hnull x)
    . rw [hx]
      rfl

theorem nullable_single {a : Option Float32} (h : ∀ x ∈ a, Returns x) :
    nullable singleField (optional single a) = .ok a :=
  nullable_optional h fun _ => nofun

theorem nullable_eq_ok {α : Type} {decode : Decoder Json α} {j : Json} {a : Option α}
    (h : nullable decode j = .ok a) : ∀ x ∈ a, decode j = .ok x := by
  unfold nullable at h
  split at h
  . cases h
    nofun
  . obtain ⟨x, hx, h⟩ := bind_eq_ok_iff.mp h
    cases h
    rintro _ ⟨⟩
    exact hx

end Json

namespace Op

theorem toJson_eq_obj (op : Op Float32) : ∃ tag fields, op.toJson = .obj (tag :: fields) := by
  cases op <;> exact ⟨_, _, rfl⟩

/-- What a block is written as: texts and gaps, its number, its conditions and its bodies. -/
inductive IsPart (op : Op Float32) : Json → Prop where
  | leaf {part : Json} (hdepth : part.depth = 0) (hnumerals : part.numerals = []) : IsPart op part
  | number {field : String} {x : Float32} (h : (field, x) ∈ op.numbers) : IsPart op (.single x)
  | condition {condition : Expr Float32} (h : condition ∈ op.conditions) :
    IsPart op condition.toJson
  | body {body : Program Float32} (h : body ∈ op.bodies) : IsPart op (.arr (bodyToJson body))

namespace IsPart

variable {op : Op Float32}

theorem text (value : String) : op.IsPart (.str value) :=
  .leaf rfl rfl

theorem optionalText {α : Type} (text : α → String) (a : Option α) :
    op.IsPart (.optional (fun x => .str (text x)) a) := by
  cases a with
  | none => exact .leaf rfl rfl
  | some x => exact .text (text x)

theorem optionalNumber {field : String} {a : Option Float32}
    (h : ∀ x ∈ a, (field, x) ∈ op.numbers) : op.IsPart (.optional .single a) := by
  cases a with
  | none => exact .leaf rfl rfl
  | some x => exact .number (h x rfl)

end IsPart

theorem isPart_action (a : Action Float32) :
    ∀ part ∈ (action a).toJson.parts, (action a).IsPart part := by
  cases a
  all_goals simp only [toJson, Json.parts, Action.members, Action.name, List.map_cons, List.map_nil,
    List.forall_mem_cons, List.not_mem_nil, false_imp_iff, implies_true, and_true]
  case drive direction distance unit =>
    have hnumber : ∀ x ∈ distance,
        ("distance", x) ∈ (action (.drive direction distance unit)).numbers := by
      simp [numbers, Action.number?]
    exact ⟨.text _, .text _, .optionalNumber hnumber, .optionalText _ _⟩
  case turn direction degrees =>
    have hnumber : ∀ x ∈ degrees, ("degrees", x) ∈ (action (.turn direction degrees)).numbers := by
      simp [numbers, Action.number?]
    exact ⟨.text _, .text _, .optionalNumber hnumber⟩
  case pen pen color => exact ⟨.text _, .text _, .optionalText (fun name => name) _⟩
  case magnet pull => exact ⟨.text _, .text _⟩
  case print line => exact ⟨.text _, .text _⟩
  case stopDriving | clearConsole => exact .text _
  all_goals
    refine ⟨.text _, @IsPart.optionalNumber _ ?_ _ ?_⟩
    rotate_left
    . simp only [numbers, Action.number?]
      intro x hx
      rw [hx]
      exact List.mem_singleton_self _

theorem isPart_of_mem_parts {op : Op Float32} {part : Json} (h : part ∈ op.toJson.parts) :
    op.IsPart part := by
  suffices hall : ∀ part ∈ op.toJson.parts, op.IsPart part from hall part h
  cases op
  case action a => exact isPart_action a
  all_goals simp only [toJson, Json.parts, List.map_cons, List.map_nil, List.forall_mem_cons,
    List.not_mem_nil, false_imp_iff, implies_true, and_true]
  case breakLoop | stopProject => exact .text _
  case waitUntil condition => exact ⟨.text _, .condition (by simp [conditions])⟩
  case repeatTimes times body =>
    have htimes : ∀ x ∈ times, ("times", x) ∈ (repeatTimes times body).numbers := by
      simp [numbers]
    exact ⟨.text _, .optionalNumber htimes, .body (by simp [bodies])⟩
  case forever body => exact ⟨.text _, .body (by simp [bodies])⟩
  case repeatUntil condition body | whileDo condition body | ifThen condition body =>
    exact ⟨.text _, .condition (by simp [conditions]), .body (by simp [bodies])⟩
  case ifThenElse condition yes otherwise =>
    exact ⟨.text _, .condition (by simp [conditions]), .body (by simp [bodies]),
      .body (by simp [bodies])⟩
  case ifElseIfElse condition yes elseIfCondition elseIf otherwise =>
    exact ⟨.text _, .condition (by simp [conditions]), .body (by simp [bodies]),
      .condition (by simp [conditions]), .body (by simp [bodies]), .body (by simp [bodies])⟩

theorem depth_toJson_le {op : Op Float32} {limit : Nat}
    (hconditions : ∀ condition ∈ op.conditions, condition.toJson.depth ≤ limit)
    (hbodies : ∀ body ∈ op.bodies, (Program.toJson body).depth ≤ limit) :
    op.toJson.depth ≤ limit + 1 := by
  rw [Json.depth_le_iff_parts]
  intro part hpart
  cases isPart_of_mem_parts hpart with
  | leaf hdepth hnumerals =>
    rw [hdepth]
    exact Nat.zero_le limit
  | number h =>
    rw [Json.depth_single]
    exact Nat.zero_le limit
  | condition h => exact hconditions _ h
  | body h => exact hbodies _ h

/-! ### Decoding -/

variable {expr : Decoder Json (Expr Float32)} {body : Decoder Json (Program Float32)}

variable {S : Json → Option Json → Prop}

theorem accepts_number (hS : Json.Leaves S) (name : String) {a : Option Float32}
    (h : ∀ x ∈ a, Json.Returns x) :
    (numberField name).Accepts S [(name, .optional .single a)] a := by
  refine .optional_leaf hS ?_ (Json.nullable_single h) rfl
  cases a with
  | none => rfl
  | some x => exact Json.depth_single x

theorem accepts_optionalText {α : Type} {decode : Decoder Json α} {text : α → String}
    (hS : Json.Leaves S) (name : String) {a : Option α} (h : ∀ x, decode (.str (text x)) = .ok x)
    (hnull : ∀ x, decode .null ≠ .ok x) :
    (Fields.optional name (Json.nullable decode)).Accepts S
      [(name, .optional (fun x => .str (text x)) a)] a := by
  refine .optional_leaf hS ?_ (Json.nullable_optional (fun x _ => h x) hnull) rfl
  cases a <;> rfl

theorem accepts_action (hS : Json.Leaves S) {a : Action Float32}
    (h : ∀ number ∈ (action a).numbers, Json.Returns number.2) :
    (tagged expr body).Accepts S (action a).toJson (action a) := by
  have hnumber : ∀ x, (∃ field, a.number? = some (field, x)) → Json.Returns x := by
    rintro x ⟨field, hx⟩
    exact h (field, x) (by simp [numbers, hx])
  cases a
  case drive direction distance unit =>
    have hdirection : Decodes S DriveDirection.choice.ofField (.str direction.name) direction :=
      .text hS (by cases direction <;> rfl)
    have hdistance := accepts_number hS "distance" (a := distance) fun x hx =>
      hnumber x ⟨"distance", by rw [hx]; rfl⟩
    have hname : ∀ u : DistanceUnit, DistanceUnit.choice.ofField (.str u.name) = .ok u := by
      rintro u
      cases u <;> rfl
    have hunit := accepts_optionalText hS "unit" (a := unit) hname fun _ => nofun
    exact .intro rfl (by simp [tagged, Action.members])
      (.seq (.seq (.map (.required hdirection)) hdistance) hunit)
  case turn direction degrees =>
    have hdirection : Decodes S TurnDirection.choice.ofField (.str direction.name) direction :=
      .text hS (by cases direction <;> rfl)
    have hdegrees := accepts_number hS "degrees" (a := degrees) fun x hx =>
      hnumber x ⟨"degrees", by rw [hx]; rfl⟩
    exact .intro rfl (by simp [tagged, Action.members])
      (.seq (.map (.required hdirection)) hdegrees)
  case pen pen color =>
    have hpen : Decodes S PenAction.choice.ofField (.str pen.name) pen :=
      .text hS (by cases pen <;> rfl)
    have hname : ∀ name : String, Json.scalar Json.Shape.text (.str name) = .ok name := fun _ => rfl
    have hcolor := accepts_optionalText hS "color" (a := color) hname fun _ => nofun
    exact .intro rfl (by simp [tagged, Action.members]) (.seq (.map (.required hpen)) hcolor)
  case magnet pull =>
    have hpull : Decodes S MagnetAction.choice.ofField (.str pull.name) pull :=
      .text hS (by cases pull <;> rfl)
    exact .intro rfl (by simp [tagged, Action.members]) (.map (.required hpull))
  case print line =>
    have hline : Decodes S (Json.scalar Json.Shape.text) (.str line) line := .text hS rfl
    exact .intro rfl (by simp [tagged, Action.members]) (.map (.required hline))
  case stopDriving | clearConsole =>
    exact .intro rfl (by simp [tagged, Action.members]) (.pure _)
  -- every other block has one number, which may be absent
  all_goals
    rename_i value
    have hvalue (name : String) := accepts_number hS name (a := value) fun x hx =>
      hnumber x ⟨_, by rw [hx]; rfl⟩
    exact .intro rfl (by simp [tagged, Action.members]) (.map (hvalue _))

theorem accepts (hS : Json.Leaves S) {op : Op Float32}
    (h : op.Parts (fun c => Decodes S expr c.toJson c)
      (fun b => Decodes S body (Program.toJson b) b) Json.Returns) :
    (tagged expr body).Accepts S op.toJson op := by
  obtain ⟨hconditions, hbodies, hnumbers⟩ := h
  cases op
  case action a => exact accepts_action hS hnumbers
  case breakLoop | stopProject => exact .intro rfl (by simp [tagged]) (.pure _)
  case waitUntil c =>
    have hc := hconditions c (by simp [conditions])
    exact .intro rfl (by simp [tagged]) (.map (.required hc))
  case repeatTimes times b =>
    have htimes := accepts_number hS "times" (a := times) fun x hx =>
      hnumbers ("times", x) (by rw [hx]; exact List.mem_singleton_self _)
    have hb := hbodies b (by simp [bodies])
    exact .intro rfl (by simp [tagged]) (.seq (.map htimes) (.required hb))
  case forever b =>
    have hb := hbodies b (by simp [bodies])
    exact .intro rfl (by simp [tagged]) (.map (.required hb))
  case repeatUntil c b | whileDo c b | ifThen c b =>
    have hc := hconditions c (by simp [conditions])
    have hb := hbodies b (by simp [bodies])
    exact .intro rfl (by simp [tagged]) (.seq (.map (.required hc)) (.required hb))
  case ifThenElse c yes otherwise =>
    have hc := hconditions c (by simp [conditions])
    have hyes := hbodies yes (by simp [bodies])
    have hotherwise := hbodies otherwise (by simp [bodies])
    exact .intro rfl (by simp [tagged])
      (.seq (.seq (.map (.required hc)) (.required hyes)) (.required hotherwise))
  case ifElseIfElse c yes d elseIf otherwise =>
    have hc := hconditions c (by simp [conditions])
    have hyes := hbodies yes (by simp [bodies])
    have hd := hconditions d (by simp [conditions])
    have helseIf := hbodies elseIf (by simp [bodies])
    have hotherwise := hbodies otherwise (by simp [bodies])
    exact .intro rfl (by simp [tagged])
      (.seq (.seq (.seq (.seq (.map (.required hc)) (.required hyes)) (.required hd))
        (.required helseIf)) (.required hotherwise))

theorem parts_action {C : Expr Float32 → Prop} {B : Program Float32 → Prop} {N : Float32 → Prop}
    {a : Action Float32} (h : ∀ number ∈ a.number?, N number.2) : (action a).Parts C B N where
  conditions := List.forall_mem_nil _
  bodies := List.forall_mem_nil _
  numbers number hnumber := h number (Option.mem_toList.mp hnumber)

theorem parts_of_ofJson {Fit : Json → Prop} {C : Expr Float32 → Prop} {B : Program Float32 → Prop}
    {N : Float32 → Prop} (hexpr : ∀ j c, Fit j → expr j = .ok c → C c)
    (hbody : ∀ j b, Fit j → body j = .ok b → B b)
    (hnumber : ∀ j x, Json.singleField j = .ok x → N x) {j : Json} {op : Op Float32}
    (hj : ∀ part ∈ j.parts, Fit part) (h : (tagged expr body).ofJson j = .ok op) :
    op.Parts C B N := by
  have hexpr' (name : String) : (Fields.required name expr).Yields Fit C := .required hexpr
  have hbody' (name : String) : (Fields.required name body).Yields Fit B := .required hbody
  have hnumber' (name : String) : (numberField name).Yields Fit fun a => ∀ x ∈ a, N x :=
    .optional nofun fun j a _ ha x hx => hnumber j x (Json.nullable_eq_ok ha x hx)
  have hnamed (name : String) (a : Option Float32) (ha : ∀ x ∈ a, N x) :
      ∀ number ∈ a.map (name, ·), N number.2 := by
    intro number hmem
    obtain ⟨x, hx, rfl⟩ := Option.map_eq_some_iff.mp hmem
    exact ha x hx
  have hnone (a : Action Float32) (ha : a.number? = none) : (action a).Parts C B N := by
    apply parts_action
    simp [ha]
  have hsingle (name : String) (make : Option Float32 → Action Float32)
      (hmake : ∀ a, (make a).number? = a.map (name, ·)) :
      ((fun a => action (make a)) <$> numberField name).Yields Fit (Parts C B N) :=
    .map (hnumber' name) fun a ha => parts_action (hmake a ▸ hnamed name a ha)
  refine Tagged.ofJson_yields (P := Parts C B N) ?_ hj h
  simp only [tagged, List.forall_mem_cons, List.not_mem_nil, false_imp_iff, implies_true, and_true]
  refine ⟨?drive, ?turn, hsingle _ _ fun _ => rfl, hsingle _ _ fun _ => rfl, .pure (hnone _ rfl),
    hsingle _ _ fun _ => rfl, hsingle _ _ fun _ => rfl, hsingle _ _ fun _ => rfl,
    hsingle _ _ fun _ => rfl, hsingle _ _ fun _ => rfl, hsingle _ _ fun _ => rfl, ?waitUntil,
    ?repeatTimes, ?forever, ?repeatUntil, ?whileDo, ?ifThen, ?ifThenElse, ?ifElseIfElse, ?breakLoop,
    ?stopProject, ?pen, .map .required_any fun _ _ => hnone _ rfl,
    .map .required_any fun _ _ => hnone _ rfl, .pure (hnone _ rfl)⟩
  case drive =>
    exact .seq (.seq (.map .required_any fun direction _ distance hdistance unit _ =>
      parts_action (hnamed "distance" distance hdistance)) (hnumber' _)) .optional_any
  case turn =>
    exact .seq (.map .required_any fun direction _ degrees hdegrees =>
      parts_action (hnamed "degrees" degrees hdegrees)) (hnumber' _)
  case pen =>
    exact .seq (.map .required_any fun pen _ color _ => hnone _ rfl) .optional_any
  case waitUntil =>
    exact .map (hexpr' _) fun c hc =>
      ⟨by simpa [conditions] using hc, by simp [bodies], by simp [numbers]⟩
  case repeatTimes =>
    refine .seq (.map (hnumber' _) fun times htimes b hb => ⟨?_, ?_, ?_⟩) (hbody' _)
    . simp [conditions]
    . simpa [bodies] using hb
    . intro number hmem
      exact hnamed "times" times htimes number (Option.mem_toList.mp hmem)
  case forever =>
    exact .map (hbody' _) fun b hb =>
      ⟨by simp [conditions], by simpa [bodies] using hb, by simp [numbers]⟩
  case repeatUntil | whileDo | ifThen =>
    exact .seq (.map (hexpr' _) fun c hc b hb =>
      ⟨by simpa [conditions] using hc, by simpa [bodies] using hb, by simp [numbers]⟩) (hbody' _)
  case ifThenElse =>
    refine .seq (.seq (.map (hexpr' _) fun c hc yes hyes otherwise hotherwise => ⟨?_, ?_, ?_⟩)
      (hbody' _)) (hbody' _)
    . simpa [conditions] using hc
    . simpa [bodies] using ⟨hyes, hotherwise⟩
    . simp [numbers]
  case ifElseIfElse =>
    refine .seq (.seq (.seq (.seq (.map (hexpr' _)
      fun c hc yes hyes d hd elseIf helseIf otherwise hotherwise => ⟨?_, ?_, ?_⟩)
      (hbody' _)) (hexpr' _)) (hbody' _)) (hbody' _)
    . simpa [conditions] using ⟨hc, hd⟩
    . simpa [bodies] using ⟨hyes, helseIf, hotherwise⟩
    . simp [numbers]
  case breakLoop | stopProject =>
    exact .pure ⟨by simp [conditions], by simp [bodies], by simp [numbers]⟩

end Op

end ReefRover
