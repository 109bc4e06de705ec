import WireCodecs.Proofs.Codec.Java.Nulls
import WireCodecs.Proofs.Text.Lines

/-! Enumerations in the Java codecs. A value of a named enumeration is written as its id and read
back through the enumeration's class, by the codec of the base type. The functions convert it so in
the fixed part of a message only; in frames the value itself is passed to the codec of the base. -/

namespace WireCodecs.Java

section Calls

theorem length_eq_of_invoke_eq {op : Operation} {leading : List String} {before after : String}
    (h : op.invoke (leading ++ [before]) = op.invoke (leading ++ [after])) :
    before.length = after.length := by
  have hlength := congrArg String.length h
  have hreplace := Text.length_joinWith_replace ", " before after leading op.extraArgs
  simp only [Operation.invoke, String.length_append, List.append_assoc, List.singleton_append]
    at hlength
  omega

theorem paren_mem_invoke (op : Operation) (leading : List String) :
    '(' ∈ (op.invoke leading).toList := by
  simp [Operation.invoke]

end Calls

/-- A field of a named enumeration that stands in the fixed part of its message. -/
def TravelsAsId (table : TypeTable) (field : Field) : Prop :=
  isNamedEnum field = true ∧ (field.type.fixedWidth? table).isSome

instance (table : TypeTable) (field : Field) : Decidable (TravelsAsId table field) :=
  inferInstanceAs (Decidable (_ ∧ _))

theorem mapping_enum {direction : Direction} {scope : TypeScope} {base : TypeName}
    {name : Option String} {mapped : TypeMapping}
    (h : mapping direction scope (.enum base name) = .ok mapped) :
    ∃ inner, mapping direction scope base = .ok inner ∧ mapped.op = inner.op ∧
      mapped.spelling = (name.map Naming.pascal).getD inner.spelling := by
  obtain ⟨inner, hinner, h⟩ := bind_eq_ok_iff.mp h
  rw [pure_eq_ok_iff.mp h]
  exact ⟨inner, hinner, rfl, rfl⟩

namespace Coding

variable (coding : Coding) (planned : PlannedField)

section Forms

/-- What a call that writes the field has before the value. -/
def writeArguments : List String :=
  if planned.isFixed then ["initialFrame.content", offsetName coding.lead planned.field]
  else ["clientMessage"]

/-- The call that reads the field. -/
def read : String :=
  planned.op.invoke <|
    if planned.isFixed then ["initialFrame.content", offsetName coding.lead planned.field]
    else ["iterator"]

/-- Code that passes an argument to the field's operation, behind a guard or without one. -/
def Passes (argument : String) (code : Code Empty) : Prop :=
  let call := planned.op.invoke (coding.writeArguments planned ++ [argument]) ++ ";"
  code = .line call ∨ code = nullGuard (coding.value planned) call

/-- Code that assigns a value to the field's target, with a test for null or without one. -/
def Assigns (value : String) (code : Code Empty) : Prop :=
  code = .line (coding.target planned ++ " = " ++ value ++ ";") ∨
  code = .line (coding.target planned ++ " = " ++ nullTest ++ value ++ ";")

variable {coding planned}

/-- All arguments that some code passes are of one length. -/
theorem Passes.length_eq {first second : String} {code : Code Empty}
    (hfirst : coding.Passes planned first code) (hsecond : coding.Passes planned second code) :
    first.length = second.length := by
  have hcalls : planned.op.invoke (coding.writeArguments planned ++ [first]) ++ ";" =
      planned.op.invoke (coding.writeArguments planned ++ [second]) ++ ";" := by
    rcases hfirst with rfl | rfl
    · rcases hsecond with h | h
      · exact Code.line.inj h
      · exact absurd h.symm (nullGuard_ne_line _ _ _)
    · rcases hsecond with h | h
      · exact absurd h (nullGuard_ne_line _ _ _)
      · exact nullGuard_inj h
  exact length_eq_of_invoke_eq (String.append_left_inj _ |>.mp hcalls)

theorem Passes.not_getId {argument : String} {code : Code Empty}
    (h : coding.Passes planned argument code) :
    ¬ coding.Passes planned (argument ++ ".getId()") code := by
  intro hid
  have hlength := h.length_eq hid
  simp at hlength

/-- What is read is not assigned as it is and through a class at once. Only with a null test in the
one line and none in the other can the two be equally long, but then they end differently. -/
theorem Assigns.not_getById {className : String} {code : Code Empty}
    (h : coding.Assigns planned (coding.read planned) code) :
    ¬ coding.Assigns planned (className ++ ".getById(" ++ coding.read planned ++ ")") code := by
  have hparens : ")".length = 1 := rfl
  rintro (hid | hid) <;> rcases h with rfl | rfl
  · have hlength := congrArg String.length (Code.line.inj hid)
    simp only [String.length_append] at hlength
    omega
  · have hchars := congrArg String.toList (String.append_left_inj _ |>.mp (Code.line.inj hid))
    have hshifted : nullTest.toList ++ (coding.read planned).toList =
        (className ++ ".getById(").toList ++ (coding.read planned).toList ++ [')'] := by
      simpa using hchars
    have hparen := Text.eq_of_append_eq_append_singleton hshifted _ (paren_mem_invoke _ _)
    exact absurd hparen (by decide)
  · have hlength := congrArg String.length (Code.line.inj hid)
    simp only [String.length_append] at hlength
    omega
  · have hlength := congrArg String.length (Code.line.inj hid)
    simp only [String.length_append] at hlength
    omega

end Forms

/-- Both functions convert the fields that travel as an id and no other ones, by the operation of
the type under the enumeration. -/
structure ConvertsIds (types : TypeScope) (coding : Coding) : Prop where
  encoder : ∀ step ∈ coding.encoder, ∀ planned, step.planned? = some planned →
    (coding.Passes planned (coding.value planned ++ ".getId()") step.code ↔
      TravelsAsId types.table planned.field) ∧
    (coding.Passes planned (coding.value planned) step.code ↔
      ¬ TravelsAsId types.table planned.field) ∧
    ∀ base name, planned.field.type = .enum base (some name) →
      ∃ inner, mapping .encode types base = .ok inner ∧ planned.op = inner.op
  decoder : ∀ step ∈ coding.decoder, ∀ planned, step.planned? = some planned →
    (coding.Assigns planned
        (planned.mapping.spelling ++ ".getById(" ++ coding.read planned ++ ")") step.code ↔
      TravelsAsId types.table planned.field) ∧
    (coding.Assigns planned (coding.read planned) step.code ↔
      ¬ TravelsAsId types.table planned.field) ∧
    ∀ base name, planned.field.type = .enum base (some name) →
      planned.mapping.spelling = Naming.pascal name ∧
      ∃ inner, mapping .decode types base = .ok inner ∧ planned.op = inner.op

section Steps

variable {coding : Coding} {planned : PlannedField} {table : TypeTable}
  (hwidth : planned.isFixed = (planned.field.type.fixedWidth? table).isSome)

include hwidth

theorem travelsAsId_iff :
    TravelsAsId table planned.field ↔
      isNamedEnum planned.field = true ∧ planned.isFixed = true := by
  rw [TravelsAsId, hwidth]

variable (nulls : Bool)

theorem passes_ofField :
    coding.Passes planned
      (if TravelsAsId table planned.field then coding.value planned ++ ".getId()"
        else coding.value planned)
      (EncodeStep.ofField coding.lead nulls coding.value planned).code := by
  cases hfixed : planned.isFixed with
  | true =>
    have hid : TravelsAsId table planned.field ↔ isNamedEnum planned.field = true :=
      (travelsAsId_iff hwidth).trans (and_iff_left hfixed)
    rw [EncodeStep.ofField_of_fixed hfixed]
    exact .inl (by simp [EncodeStep.code, EncodeStep.wireValue, writeArguments, hfixed, hid])
  | false =>
    have hid : ¬ TravelsAsId table planned.field := by
      simp [travelsAsId_iff hwidth, hfixed]
    have harguments : coding.writeArguments planned = ["clientMessage"] := by
      simp [writeArguments, hfixed]
    rw [EncodeStep.ofField_of_framed hfixed, if_neg hid, Passes, harguments]
    cases nulls && planned.nullable with
    | true => exact .inr rfl
    | false => exact .inl rfl

theorem assigns_ofField :
    coding.Assigns planned
      (if TravelsAsId table planned.field then
          planned.mapping.spelling ++ ".getById(" ++ coding.read planned ++ ")"
        else coding.read planned)
      (DecodeStep.ofField coding.lead nulls coding.target planned).code := by
  cases hfixed : planned.isFixed with
  | true =>
    have hid : TravelsAsId table planned.field ↔ isNamedEnum planned.field = true :=
      (travelsAsId_iff hwidth).trans (and_iff_left hfixed)
    rw [DecodeStep.ofField_of_fixed hfixed]
    exact .inl (by simp [DecodeStep.code, DecodeStep.fromWire, read, hfixed, hid])
  | false =>
    have hid : ¬ TravelsAsId table planned.field := by
      simp [travelsAsId_iff hwidth, hfixed]
    have hread : coding.read planned = planned.op.invoke ["iterator"] := by
      simp [read, hfixed]
    rw [DecodeStep.ofField_of_framed hfixed, if_neg hid, hread]
    cases nulls && planned.nullable with
    | true => exact .inr rfl
    | false => exact .inl (by simp [DecodeStep.code])

end Steps

theorem Follows.convertsIds {coding : Coding} {plans : Plans} {nulls : Bool}
    (h : coding.Follows plans nulls) {types : TypeScope} {namespaceName : String}
    {fields : List Field}
    (hplans : RenderScope.plans ⟨mappingSet, types, namespaceName⟩ fields = .ok plans) :
    coding.ConvertsIds types := by
  obtain ⟨hencode, hdecode⟩ := RenderScope.plans_eq_ok_iff.mp hplans
  constructor
  · intro step hstep planned hplanned
    obtain ⟨hpart, rfl⟩ := h.encoder.eq_ofField hstep hplanned
    have hmem := Plan.mem_fields_of_mem_parts hpart
    have hpasses : coding.Passes planned _ _ :=
      passes_ofField (RenderScope.isFixed_of_plan hencode hmem) nulls
    have hmapping := RenderScope.mapping_of_plan hencode hmem
    obtain ⟨hid, hplain⟩ := iff_chosen (P := (coding.Passes planned · _)) hpasses Passes.not_getId
    refine ⟨hid, hplain, fun base name htype => ?_⟩
    rw [htype] at hmapping
    obtain ⟨inner, hinner, hop, -⟩ := mapping_enum hmapping
    exact ⟨inner, hinner, hop⟩
  · intro step hstep planned hplanned
    obtain ⟨hpart, rfl⟩ := h.decoder.eq_ofField hstep hplanned
    have hmem := Plan.mem_fields_of_mem_parts hpart
    have hassigns : coding.Assigns planned _ _ :=
      assigns_ofField (RenderScope.isFixed_of_plan hdecode hmem) nulls
    have hmapping := RenderScope.mapping_of_plan hdecode hmem
    obtain ⟨hid, hplain⟩ :=
      iff_chosen (P := (coding.Assigns planned · _)) hassigns Assigns.not_getById
    refine ⟨hid, hplain, fun base name htype => ?_⟩
    rw [htype] at hmapping
    obtain ⟨inner, hinner, hop, hspelling⟩ := mapping_enum hmapping
    exact ⟨hspelling, inner, hinner, hop⟩

end Coding

/-- In every codec the named enumerations of the fixed part, whatever their base, are converted to
their ids and back, and no other field is. A framed one is passed and read as it is. -/
theorem ids_of_codecs (types : TypeScope) (namespaceName : String) :
    let scope : RenderScope := ⟨mappingSet, types, namespaceName⟩
    (∀ service method text, methodCodec scope service method = .ok text →
      ∃ plan, planMethod scope method = .ok plan ∧
        let codings := plan.codings service method.name
        (∀ coding ∈ codings, coding.InText text) ∧
        List.Forall₂ (fun message coding =>
            coding.Covers types.table message.fields ∧ coding.ConvertsIds types)
          method.messages codings) ∧
    (∀ type text, customCodec scope type = .ok text →
      ∃ plans, scope.plans type.fields = .ok plans ∧
        let coding := customCoding scope type plans
        coding.InText text ∧ coding.Covers types.table type.fields ∧
        coding.ConvertsIds types) := by
  intro scope
  constructor
  · intro service method text h
    obtain ⟨plan, hplan, hin, hmessages⟩ := codings_of_methodCodec h
    refine ⟨plan, hplan, hin, hmessages.imp fun message coding ⟨plans, hplans, hfollows⟩ => ?_⟩
    exact ⟨hfollows.covers hplans, hfollows.convertsIds hplans⟩
  · intro type text h
    obtain ⟨plans, hplans, hin, hfollows⟩ := coding_of_customCodec h
    exact ⟨plans, hplans, hin, hfollows.covers hplans, hfollows.convertsIds hplans⟩

/-- In a request a colour that is a text is passed as it is; in a type of its own a colour that is a
number travels as its id. -/
theorem ids_of_codecs_color :
    let scope : RenderScope := ⟨mappingSet, ⟨.standard, ["Stroke"]⟩, "codec"⟩
    let named : Field := ⟨"color", .enum (.primitive "String") (some "Color"), false, none, none⟩
    let numbered : Field := ⟨"color", .enum (.primitive "Int32") (some "Color"), false, none, none⟩
    let draw : Method := ⟨1, "draw", none, none, ⟨.derive 1 1 .request, none, [named]⟩,
      ⟨.derive 1 1 .response, none, []⟩, []⟩
    let stroke : CustomType := ⟨"Stroke", none, [numbered]⟩
    (∃ text, methodCodec scope "paint" draw = .ok text ∧
      ∃ plan, planMethod scope draw = .ok plan ∧
      ∃ coding ∈ plan.codings "paint" "draw", coding.InText text ∧
      ∃ step ∈ coding.encoder, ∃ planned : PlannedField, planned.field = named ∧
        coding.Passes planned (coding.value planned) step.code ∧
        ¬ coding.Passes planned (coding.value planned ++ ".getId()") step.code) ∧
    ∃ text, customCodec scope stroke = .ok text ∧
      ∃ plans, scope.plans stroke.fields = .ok plans ∧
      let coding := customCoding scope stroke plans
      coding.InText text ∧
      ∃ step ∈ coding.encoder, ∃ planned : PlannedField, planned.field = numbered ∧
        coding.Passes planned (coding.value planned ++ ".getId()") step.code := by
  intro scope named numbered draw stroke
  have hnamed : ¬ TravelsAsId scope.types.table named := by decide
  have hnumbered : TravelsAsId scope.types.table numbered := by decide
  obtain ⟨hmethods, hcustoms⟩ := ids_of_codecs scope.types scope.namespaceName
  constructor
  · have hrendered : ∃ text, methodCodec scope "paint" draw = .ok text := ⟨_, rfl⟩
    obtain ⟨text, htext⟩ := hrendered
    obtain ⟨plan, hplan, hin, hmessages⟩ := hmethods "paint" draw text htext
    obtain ⟨coding, rest, ⟨hcovers, hids⟩, -, hcodings⟩ := List.forall₂_cons_left_iff.mp hmessages
    have hcoding : coding ∈ plan.codings "paint" "draw" := by
      rw [hcodings]
      exact List.mem_cons_self
    obtain ⟨step, hstep, planned, hplanned, hfield⟩ :=
      exists_step_of_mem hcovers.encoder (List.mem_singleton_self named)
    obtain ⟨hconverted, hplain, -⟩ := hids.encoder step hstep planned hplanned
    refine ⟨text, htext, plan, hplan, coding, hcoding, hin coding hcoding, step, hstep, planned,
      hfield, hplain.mpr (hfield ▸ hnamed), mt hconverted.mp (hfield ▸ hnamed)⟩
  · have hrendered : ∃ text, customCodec scope stroke = .ok text := ⟨_, rfl⟩
    obtain ⟨text, htext⟩ := hrendered
    obtain ⟨plans, hplans, hin, hcovers, hids⟩ := hcustoms stroke text htext
    obtain ⟨step, hstep, planned, hplanned, hfield⟩ :=
      exists_step_of_mem hcovers.encoder (List.mem_singleton_self numbered)
    have hconverted := (hids.encoder step hstep planned hplanned).1
    exact ⟨text, htext, plans, hplans, hin, step, hstep, planned, hfield,
      hconverted.mpr (hfield ▸ hnumbered)⟩

end WireCodecs.Java
