import WireCodecs.Codec.Cpp.Template
import WireCodecs.Proofs.Code
import WireCodecs.Proofs.Codec.Steps

/-! Nulls in the C++ codecs of custom types. The encoder writes every member with `msg.set`, and the
decoder reads the nullable ones among the framed members with `msg.get_nullable`. So the two handle
a framed member alike exactly if it is not nullable. -/

namespace WireCodecs.Cpp

section Steps

/-- The field that a step is for. -/
def EncodeStep.planned? : EncodeStep → Option PlannedField
  | set planned _ _ _ => some planned
  | _ => none

def DecodeStep.planned? : DecodeStep → Option PlannedField
  | get planned _ => some planned
  | _ => none

/-- The step of a custom type's encoder for a field. -/
def EncodeStep.ofMember (receiver : String) (planned : PlannedField) : EncodeStep :=
  .set planned (receiver ++ "." ++ planned.parameter) false false

def DecodeStep.ofField (planned : PlannedField) : DecodeStep :=
  .get planned (!planned.isFixed && planned.nullable)

variable (plan : Plan)

theorem stepsFor_encodeCustom (receiver : String) :
    StepsFor EncodeStep.planned? (.ofMember receiver) (encodeCustom receiver plan)
      (plan.fixed ++ plan.framed) := by
  have hplanned : ∀ planned, (EncodeStep.ofMember receiver planned).planned? = some planned :=
    fun _ => rfl
  exact StepsFor.concat (.skip rfl (.map hplanned fun _ _ => rfl)) rfl

theorem stepsFor_decodeFields :
    StepsFor DecodeStep.planned? .ofField (decodeFields plan) (plan.fixed ++ plan.framed) := by
  have hplanned : ∀ planned, (DecodeStep.ofField planned).planned? = some planned := fun _ => rfl
  refine StepsFor.append (.map hplanned ?fixed) (.map hplanned ?framed)
  case fixed =>
    intro planned h
    rw [DecodeStep.ofField, Plan.isFixed_of_mem_fixed h]
    rfl
  case framed =>
    intro planned h
    rw [DecodeStep.ofField, Plan.isFixed_of_mem_framed h]
    rfl

theorem stepsFor_decodeCustom :
    StepsFor DecodeStep.planned? .ofField (decodeCustom plan) (plan.fixed ++ plan.framed) :=
  StepsFor.concat (.skip rfl (stepsFor_decodeFields plan)) rfl

end Steps

section Operations

variable {scope : TypeScope} {type : TypeName} {encode decode : TypeMapping}

theorem invoke_of_encode (h : mapping .encode scope type = .ok encode) (arguments : List String) :
    encode.op.invoke arguments = "msg.set(" ++ Text.joinWith ", " arguments ++ ")" := by
  obtain ⟨spelling, -, h⟩ := bind_eq_ok_iff.mp h
  rw [pure_eq_ok_iff.mp h]
  simp [Operation.invoke]

theorem spelling_of_encode {value : String} (h : mapping .encode scope type = .ok encode)
    (hvalue : valueType scope.customTypes type = .ok value) :
    encode.spelling = parameterType value (place scope.table type) := by
  obtain ⟨spelling, hspelling, h⟩ := bind_eq_ok_iff.mp h
  rw [pure_eq_ok_iff.mp h, Except.ok.inj (hvalue.symm.trans hspelling)]

theorem spelling_of_decode (h : mapping .decode scope type = .ok decode) :
    valueType scope.customTypes type = .ok decode.spelling := by
  obtain ⟨spelling, hspelling, h⟩ := bind_eq_ok_iff.mp h
  rw [pure_eq_ok_iff.mp h]
  exact hspelling

theorem invoke_of_decode (h : mapping .decode scope type = .ok decode) :
    decode.op.invoke [] = "msg.get<" ++ decode.spelling ++ ">()" := by
  obtain ⟨spelling, -, h⟩ := bind_eq_ok_iff.mp h
  rw [pure_eq_ok_iff.mp h]
  simp [Operation.invoke, Text.joinWith, String.append_assoc]

end Operations

section Lines

/-- A line that sets a value and lets it be absent. -/
def SetsNullable (code : Code Empty) : Prop :=
  ∃ args, code = .line ("msg.set_nullable(" ++ args ++ ");")

/-- A line that reads into a variable what may be absent. -/
def GetsNullable (name : String) (code : Code Empty) : Prop :=
  ∃ typeName, code =
    .line ("auto " ++ name ++ " = " ++ ("msg.get_nullable<" ++ typeName ++ ">()") ++ ";")

theorem not_setsNullable_set (value : String) :
    ¬ SetsNullable (.line ("msg.set(" ++ value ++ ");")) := by
  rintro ⟨args, h⟩
  have hchars := congrArg String.toList (Code.line.inj h)
  simp at hchars

theorem getsNullable_get_iff {scope : TypeScope} {planned : PlannedField} (nullable : Bool)
    (h : mapping .decode scope planned.field.type = .ok planned.mapping) :
    GetsNullable planned.parameter (DecodeStep.get planned nullable).code ↔ nullable = true := by
  cases nullable with
  | true => exact iff_of_true ⟨planned.mapping.spelling, rfl⟩ rfl
  | false =>
    refine iff_of_false ?_ Bool.false_ne_true
    rintro ⟨typeName, hline⟩
    have hinvoke : planned.op.invoke [] = "msg.get<" ++ planned.mapping.spelling ++ ">()" :=
      invoke_of_decode h
    have hchars := congrArg String.toList (Code.line.inj hline)
    simp [hinvoke] at hchars

end Lines

section Custom

/-- The first line of the encoder of a custom type, without the brace. -/
def customEncoderHeader (scope : RenderScope) (type : CustomType) : String :=
  "void " ++ customStructName type.name ++ "::encode(" ++
    encodeParameters scope (scope.set.typeCase type.name) ++ ")"

def customDecoderHeader (scope : RenderScope) (type : CustomType) : String :=
  scope.set.typeCase type.name ++ " " ++ customStructName type.name ++
    "::decode(ClientMessage &msg)"

/-- What the encoder of a custom type takes its members from. -/
def customReceiver (scope : RenderScope) (type : CustomType) : String :=
  scope.set.parameter (scope.set.typeCase type.name)

/-- The line that constructs the value of a custom type from the variables of these names. -/
def constructionLine (typeName : String) (names : List String) : Code Empty :=
  .line ("return " ++ typeName ++ "\x7b" ++ Text.joinWith ", " names ++ "\x7d;")

theorem inBlock_of_customSource {scope : RenderScope} {type : CustomType} {text : String}
    (h : customSource scope type = .ok text) :
    ∃ plans, scope.plans type.fields = .ok plans ∧
      Code.InBlock indent text (customEncoderHeader scope type)
        (.all ((encodeCustom (customReceiver scope type) plans.encode).map (·.code))) ∧
      Code.InBlock indent text (customDecoderHeader scope type)
        (.all ((decodeCustom plans.decode).map (·.code) ++
          [constructionLine (scope.set.typeCase type.name) plans.decode.parameters])) := by
  obtain ⟨plans, hplans, h⟩ := bind_eq_ok_iff.mp h
  rw [pure_eq_ok_iff.mp h]
  refine ⟨plans, hplans, ?encoder, ?decoder⟩
  case encoder =>
    refine Code.PartOf.inBlock (.item 3 rfl (.braces 0 rfl .whole)) rfl fun depth => ?_
    simp [customReceiver]
  case decoder =>
    refine Code.PartOf.inBlock (.item 3 rfl (.braces 2 rfl .whole)) rfl fun depth => ?_
    simp [constructionLine, argumentList]

variable {types : TypeScope} {namespaceName : String} {fields : List Field} {plan : Plan}

theorem sets_of_mem_encodeCustom {receiver : String}
    (h : RenderScope.plan ⟨mappingSet, types, namespaceName⟩ .encode fields = .ok plan)
    {step : EncodeStep} (hmem : step ∈ encodeCustom receiver plan)
    {planned : PlannedField} (hplanned : step.planned? = some planned) :
    step.code = .line ("msg.set(" ++ (receiver ++ "." ++ planned.parameter) ++ ");") ∧
      ¬ SetsNullable step.code := by
  obtain ⟨hpart, rfl⟩ := (stepsFor_encodeCustom plan receiver).eq_ofField hmem hplanned
  have hfield := Plan.mem_fields_of_mem_parts hpart
  have hcode : ∀ value, (EncodeStep.set planned value false false).code =
      .line ("msg.set(" ++ value ++ ");") := by
    intro value
    have hinvoke : planned.op.invoke [value] = "msg.set(" ++ value ++ ")" :=
      invoke_of_encode (RenderScope.mapping_of_plan h hfield) [value]
    simp [EncodeStep.code, hinvoke, String.append_assoc]
  rw [EncodeStep.ofMember, hcode]
  exact ⟨rfl, not_setsNullable_set _⟩

theorem getsNullable_iff_of_mem_decodeCustom
    (h : RenderScope.plan ⟨mappingSet, types, namespaceName⟩ .decode fields = .ok plan)
    {step : DecodeStep} (hmem : step ∈ decodeCustom plan)
    {planned : PlannedField} (hplanned : step.planned? = some planned) :
    GetsNullable planned.parameter step.code ↔
      planned.nullable = true ∧ planned.field.type.fixedWidth? types.table = none := by
  obtain ⟨hpart, rfl⟩ := (stepsFor_decodeCustom plan).eq_ofField hmem hplanned
  have hfield := Plan.mem_fields_of_mem_parts hpart
  rw [DecodeStep.ofField, getsNullable_get_iff _ (RenderScope.mapping_of_plan h hfield),
    RenderScope.isFixed_of_plan h hfield]
  simp [and_comm]

/-- The encoder of a custom type sets each of its fields once with plain `msg.set`. The decoder
reads each of them once, with `msg.get_nullable` exactly if the field is framed and nullable. So the
two agree on a framed field exactly if it is not nullable. -/
theorem nulls_of_customSource {type : CustomType} {text : String}
    (h : customSource ⟨mappingSet, types, namespaceName⟩ type = .ok text) :
    let scope : RenderScope := ⟨mappingSet, types, namespaceName⟩
    ∃ plans, scope.plans type.fields = .ok plans ∧
      let encoder := encodeCustom (customReceiver scope type) plans.encode
      let decoder := decodeCustom plans.decode
      Code.InBlock indent text (customEncoderHeader scope type) (.all (encoder.map (·.code))) ∧
      Code.InBlock indent text (customDecoderHeader scope type)
        (.all (decoder.map (·.code) ++
          [constructionLine (scope.set.typeCase type.name) plans.decode.parameters])) ∧
      (encoder.filterMap (·.planned?)).map (·.field) = types.table.wireOrder type.fields ∧
      (decoder.filterMap (·.planned?)).map (·.field) = types.table.wireOrder type.fields ∧
      (∀ step ∈ encoder, ∀ planned, step.planned? = some planned →
        step.code = .line
          ("msg.set(" ++ (customReceiver scope type ++ "." ++ planned.parameter) ++ ");") ∧
        ¬ SetsNullable step.code) ∧
      (∀ step ∈ decoder, ∀ planned, step.planned? = some planned →
        (GetsNullable planned.parameter step.code ↔
          planned.nullable = true ∧ planned.field.type.fixedWidth? types.table = none)) ∧
      (∀ set ∈ encoder, ∀ planned, set.planned? = some planned →
        ∀ get ∈ decoder, ∀ read, get.planned? = some read → read.field = planned.field →
          planned.field.type.fixedWidth? types.table = none →
          ((SetsNullable set.code ↔ GetsNullable read.parameter get.code) ↔
            planned.nullable = false)) := by
  intro scope
  obtain ⟨plans, hplans, hencoder, hdecoder⟩ := inBlock_of_customSource h
  obtain ⟨hencode, hdecode⟩ := RenderScope.plans_eq_ok_iff.mp hplans
  refine ⟨plans, hplans, hencoder, hdecoder, ?fields, ?readFields, ?sets, ?gets, ?agree⟩
  case fields => exact (stepsFor_encodeCustom plans.encode _).wireOrder hencode
  case readFields => exact (stepsFor_decodeCustom plans.decode).wireOrder hdecode
  case sets =>
    intro step hstep planned hplanned
    exact sets_of_mem_encodeCustom hencode hstep hplanned
  case gets =>
    intro step hstep planned hplanned
    exact getsNullable_iff_of_mem_decodeCustom hdecode hstep hplanned
  case agree =>
    intro set hset planned hplanned get hget read hread hsame hframed
    have hplain := (sets_of_mem_encodeCustom hencode hset hplanned).2
    rw [iff_false_left hplain, getsNullable_iff_of_mem_decodeCustom hdecode hget hread,
      PlannedField.nullable, PlannedField.nullable, hsame]
    simp [hframed]

/-- The member of this type is set as if it were never null, and is read as one that may be. -/
theorem nulls_of_customSource_person :
    let scope : RenderScope := ⟨mappingSet, ⟨.standard, ["Person"]⟩, "codec"⟩
    let nick : Field := ⟨"nick", .primitive "String", true, none, none⟩
    let type : CustomType := ⟨"Person", none, [nick]⟩
    ∃ text plans, customSource scope type = .ok text ∧ scope.plans type.fields = .ok plans ∧
      ∃ set ∈ encodeCustom (customReceiver scope type) plans.encode,
      ∃ get ∈ decodeCustom plans.decode,
      ∃ planned read, set.planned? = some planned ∧ get.planned? = some read ∧
        planned.field = nick ∧ read.field = nick ∧
        ¬ (SetsNullable set.code ↔ GetsNullable read.parameter get.code) := by
  intro scope nick type
  have hrendered : ∃ text, customSource scope type = .ok text := ⟨_, rfl⟩
  obtain ⟨text, htext⟩ := hrendered
  obtain ⟨plans, hplans, -, -, hset, hget, -, -, hagree⟩ := nulls_of_customSource htext
  have hframed : nick.type.fixedWidth? scope.types.table = none := by decide
  obtain ⟨set, hmemSet, planned, hsetPlanned, hfield⟩ :=
    exists_step_of_mem hset (List.mem_singleton_self nick)
  obtain ⟨get, hmemGet, read, hgetPlanned, hreadField⟩ :=
    exists_step_of_mem hget (List.mem_singleton_self nick)
  have hdiffer := hagree set hmemSet planned hsetPlanned get hmemGet read hgetPlanned
    (hreadField.trans hfield.symm) (hfield ▸ hframed)
  refine ⟨text, plans, htext, hplans, set, hmemSet, get, hmemGet, planned, read, hsetPlanned,
    hgetPlanned, hfield, hreadField, ?_⟩
  rw [hdiffer, PlannedField.nullable, hfield]
  decide

end Custom

end WireCodecs.Cpp
