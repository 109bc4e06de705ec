import WireCodecs.Codec.Java.Template
import WireCodecs.Proofs.Code
import WireCodecs.Proofs.Codec.Steps

/-! The encoders and decoders of a Java codec class. There is a pair of them for each message of a
method and one for a custom type. Both functions stand in the text of the class, and apart from the
frames around the fields they have one step for each field, the fixed ones first. -/

namespace WireCodecs.Java

section Steps

/-- The field that a step is for. -/
def EncodeStep.planned? : EncodeStep → Option PlannedField
  | fixed planned _ _ | framed planned _ _ => some planned
  | _ => none

def DecodeStep.planned? : DecodeStep → Option PlannedField
  | fixed planned _ _ | framed planned _ _ => some planned
  | _ => none

variable (lead : String) (nulls : Bool)

/-- The step for a field, where `nulls` says whether a framed value may be null. -/
def EncodeStep.ofField (value : PlannedField → String) (planned : PlannedField) : EncodeStep :=
  if planned.isFixed then .fixed planned (offsetName lead planned.field) (value planned)
  else .framed planned (value planned) (nulls && planned.nullable)

def DecodeStep.ofField (target : PlannedField → String) (planned : PlannedField) : DecodeStep :=
  if planned.isFixed then .fixed planned (offsetName lead planned.field) (target planned)
  else .framed planned (target planned) (nulls && planned.nullable)

variable {lead nulls}

namespace EncodeStep

variable {value : PlannedField → String} {planned : PlannedField}

@[simp] theorem planned?_ofField : (ofField lead nulls value planned).planned? = some planned := by
  unfold ofField
  split <;> rfl

theorem ofField_of_fixed (h : planned.isFixed = true) :
    ofField lead nulls value planned =
      .fixed planned (offsetName lead planned.field) (value planned) :=
  if_pos h

theorem ofField_of_framed (h : planned.isFixed = false) :
    ofField lead nulls value planned =
      .framed planned (value planned) (nulls && planned.nullable) :=
  if_neg (by simp [h])

end EncodeStep

namespace DecodeStep

variable {target : PlannedField → String} {planned : PlannedField}

@[simp] theorem planned?_ofField : (ofField lead nulls target planned).planned? = some planned := by
  unfold ofField
  split <;> rfl

theorem ofField_of_fixed (h : planned.isFixed = true) :
    ofField lead nulls target planned =
      .fixed planned (offsetName lead planned.field) (target planned) :=
  if_pos h

theorem ofField_of_framed (h : planned.isFixed = false) :
    ofField lead nulls target planned =
      .framed planned (target planned) (nulls && planned.nullable) :=
  if_neg (by simp [h])

end DecodeStep

variable (plan : Plan)

theorem stepsFor_encodeFields (value : PlannedField → String) :
    StepsFor EncodeStep.planned? (.ofField lead true value) (encodeFields lead plan value)
      (plan.fixed ++ plan.framed) := by
  refine StepsFor.append ?fixed (.skip rfl ?framed)
  case fixed =>
    exact .map (fun _ => EncodeStep.planned?_ofField) fun _ h =>
      EncodeStep.ofField_of_fixed (Plan.isFixed_of_mem_fixed h)
  case framed =>
    exact .map (fun _ => EncodeStep.planned?_ofField) fun _ h =>
      EncodeStep.ofField_of_framed (Plan.isFixed_of_mem_framed h)

theorem stepsFor_decodeFields (target : PlannedField → String) :
    StepsFor DecodeStep.planned? (.ofField lead true target) (decodeFields lead plan target)
      (plan.fixed ++ plan.framed) := by
  have hinitial : (if plan.fixed.isEmpty then DecodeStep.emptyInitialFrame
      else .initialFrame).planned? = none := by
    split <;> rfl
  refine .skip hinitial (StepsFor.append ?fixed ?framed)
  case fixed =>
    exact .map (fun _ => DecodeStep.planned?_ofField) fun _ h =>
      DecodeStep.ofField_of_fixed (Plan.isFixed_of_mem_fixed h)
  case framed =>
    exact .map (fun _ => DecodeStep.planned?_ofField) fun _ h =>
      DecodeStep.ofField_of_framed (Plan.isFixed_of_mem_framed h)

/-- In a custom type only a fixed part brings null handling with it. -/
theorem stepsFor_encodeCustom (value : PlannedField → String) :
    StepsFor EncodeStep.planned? (.ofField "" (!plan.fixed.isEmpty) value) (encodeCustom plan value)
      (plan.fixed ++ plan.framed) := by
  refine StepsFor.concat (.skip rfl ?_) rfl
  cases hempty : plan.fixed.isEmpty with
  | true =>
    rw [List.isEmpty_iff.mp hempty]
    exact .map (fun _ => EncodeStep.planned?_ofField) fun _ h =>
      EncodeStep.ofField_of_framed (Plan.isFixed_of_mem_framed h)
  | false => exact .skip rfl (stepsFor_encodeFields plan value)

theorem stepsFor_decodeCustom (target : PlannedField → String) :
    StepsFor DecodeStep.planned? (.ofField "" (!plan.fixed.isEmpty) target)
      (decodeCustom plan target) (plan.fixed ++ plan.framed) := by
  refine StepsFor.concat (.skip rfl ?_) rfl
  cases hempty : plan.fixed.isEmpty with
  | true =>
    rw [List.isEmpty_iff.mp hempty]
    exact .map (fun _ => DecodeStep.planned?_ofField) fun _ h =>
      DecodeStep.ofField_of_framed (Plan.isFixed_of_mem_framed h)
  | false => exact stepsFor_decodeFields plan target

end Steps

/-- The encoder and the decoder of one field list. -/
structure Coding where
  /-- The first lines of the two, without the braces. -/
  encoderHeader : String
  decoderHeader : String
  encoder : List EncodeStep
  decoder : List DecodeStep
  /-- The lines of the encoder in front of its steps and behind them. -/
  encoderOpening : List String
  encoderClosing : List String
  /-- The lines of the decoder in front of its steps and behind them. -/
  decoderOpening : List String
  decoderClosing : List String
  /-- The lead of the offsets of the fixed fields. -/
  lead : String
  /-- The expression that the encoder takes a field's value from. -/
  value : PlannedField → String
  /-- What the decoder assigns a field's value to. -/
  target : PlannedField → String

namespace Coding

/-- All that is in the encoder. -/
def encoderCode (coding : Coding) : Code Empty :=
  .all (coding.encoderOpening.map .line ++ coding.encoder.map (·.code) ++
    coding.encoderClosing.map .line)

def decoderCode (coding : Coding) : Code Empty :=
  .all (coding.decoderOpening.map .line ++ coding.decoder.map (·.code) ++
    coding.decoderClosing.map .line)

/-- Both functions stand in the text, with their lines and nothing else in them. -/
def InText (text : String) (coding : Coding) : Prop :=
  Code.InBlock indent text coding.encoderHeader coding.encoderCode ∧
  Code.InBlock indent text coding.decoderHeader coding.decoderCode

/-- Both functions have a step for each of the fields. -/
structure Covers (table : TypeTable) (fields : List Field) (coding : Coding) : Prop where
  encoder : (coding.encoder.filterMap (·.planned?)).map (·.field) = table.wireOrder fields
  decoder : (coding.decoder.filterMap (·.planned?)).map (·.field) = table.wireOrder fields

/-- The steps for fields are those of the plans. -/
structure Follows (plans : Plans) (nulls : Bool) (coding : Coding) : Prop where
  encoder : StepsFor EncodeStep.planned? (.ofField coding.lead nulls coding.value) coding.encoder
    (plans.encode.fixed ++ plans.encode.framed)
  decoder : StepsFor DecodeStep.planned? (.ofField coding.lead nulls coding.target) coding.decoder
    (plans.decode.fixed ++ plans.decode.framed)

/-- The functions are those of a message with these plans. -/
structure OfMessage (plans : Plans) (coding : Coding) : Prop where
  encoder : coding.encoder = encodeFields coding.lead plans.encode coding.value
  decoder : coding.decoder = decodeFields coding.lead plans.decode coding.target

theorem OfMessage.follows {coding : Coding} {plans : Plans} (h : coding.OfMessage plans) :
    coding.Follows plans true where
  encoder := by
    rw [h.encoder]
    exact stepsFor_encodeFields _ _
  decoder := by
    rw [h.decoder]
    exact stepsFor_decodeFields _ _

theorem Follows.covers {coding : Coding} {plans : Plans} {nulls : Bool}
    (h : coding.Follows plans nulls) {scope : RenderScope} {fields : List Field}
    (hplans : scope.plans fields = .ok plans) : coding.Covers scope.types.table fields := by
  obtain ⟨hencode, hdecode⟩ := RenderScope.plans_eq_ok_iff.mp hplans
  exact ⟨h.encoder.wireOrder hencode, h.decoder.wireOrder hdecode⟩

end Coding

section Classes

/-- What an encoder does before it writes a field of a request: it creates the message and its
initial frame, and fills in what no field says. -/
def requestOpening (operation : String) : List String :=
  ["ClientMessage clientMessage = ClientMessage.createForEncode();",
    "clientMessage.setOperationName(\"" ++ operation ++ "\");",
    "ClientMessage.Frame initialFrame = new ClientMessage.Frame(new byte[" ++
      frameSizeName requestLead ++ "], UNFRAGMENTED_MESSAGE);",
    "encodeInt(initialFrame.content, TYPE_FIELD_OFFSET, " ++ messageTypeName requestLead ++ ");",
    "encodeInt(initialFrame.content, PARTITION_ID_FIELD_OFFSET, -1);"]

/-- A response has no name and no partition. -/
def responseOpening : List String :=
  ["ClientMessage clientMessage = ClientMessage.createForEncode();",
    "ClientMessage.Frame initialFrame = new ClientMessage.Frame(new byte[" ++
      frameSizeName responseLead ++ "], UNFRAGMENTED_MESSAGE);",
    "encodeInt(initialFrame.content, TYPE_FIELD_OFFSET, " ++ messageTypeName responseLead ++ ");"]

/-- An event is marked as one. -/
def eventOpening (lead : String) : List String :=
  ["ClientMessage clientMessage = ClientMessage.createForEncode();",
    "ClientMessage.Frame initialFrame = new ClientMessage.Frame(new byte[" ++
      frameSizeName lead ++ "], UNFRAGMENTED_MESSAGE);",
    "initialFrame.flags |= ClientMessage.IS_EVENT_FLAG;",
    "encodeInt(initialFrame.content, TYPE_FIELD_OFFSET, " ++ messageTypeName lead ++ ");",
    "encodeInt(initialFrame.content, PARTITION_ID_FIELD_OFFSET, -1);"]

/-- The functions for a request or a response, called `name` with the given word for the object. -/
def messageCoding (codecClass name target lead : String) (opening : List String) (plans : Plans) :
    Coding where
  encoderHeader :=
    "public static ClientMessage encode" ++ name ++ "(" ++ parameterList plans.encode ++ ")"
  decoderHeader := "public static " ++ codecClass ++ "." ++ (name ++ "Parameters") ++ " decode" ++
    name ++ "(ClientMessage clientMessage)"
  encoder := encodeMessage lead plans.encode
  decoder := decodeMessage lead target plans.decode
  encoderOpening := opening
  encoderClosing := ["return clientMessage;"]
  decoderOpening :=
    ["ClientMessage.ForwardFrameIterator iterator = clientMessage.frameIterator();",
      name ++ "Parameters " ++ target ++ " = new " ++ name ++ "Parameters();"]
  decoderClosing := ["return " ++ target ++ ";"]
  lead := lead
  value := (·.parameter)
  target := fun planned => target ++ "." ++ planned.parameter

def eventCoding (event : PlannedEvent) : Coding where
  encoderHeader := "public static ClientMessage encode" ++ event.label ++ "Event(" ++
    parameterList event.plans.encode ++ ")"
  decoderHeader := "if (messageType == " ++ messageTypeName (eventLead event.label) ++ ")"
  encoder := encodeMessage (eventLead event.label) event.plans.encode
  decoder := decodeEvent event
  encoderOpening := eventOpening (eventLead event.label)
  encoderClosing := ["return clientMessage;"]
  decoderOpening := []
  decoderClosing :=
    ["handle" ++ event.label ++ "Event(" ++ argumentList event.plans.decode ++ ");", "return;"]
  lead := eventLead event.label
  value := (·.parameter)
  target := declare

/-- The functions in the codec class of a method, message by message. -/
def PlannedMethod.codings (service method : String) (plan : PlannedMethod) : List Coding :=
  messageCoding (className service method) "Request" "request" requestLead
    (requestOpening (Naming.capital service ++ "." ++ Naming.capital method)) plan.request ::
  messageCoding (className service method) "Response" "response" responseLead responseOpening
    plan.response ::
  plan.events.map eventCoding

/-- The functions in the codec class of a custom type. -/
def customCoding (scope : RenderScope) (type : CustomType) (plans : Plans) : Coding :=
  let typeName := scope.set.typeCase type.name
  let receiver := scope.set.parameter typeName
  { encoderHeader :=
      "public static void encode(ClientMessage clientMessage, " ++ typeName ++ " " ++ receiver ++
        ")"
    decoderHeader :=
      "public static " ++ typeName ++ " decode(ClientMessage.ForwardFrameIterator iterator)"
    encoder := encodeCustom plans.encode (getter receiver)
    decoder := decodeCustom plans.decode declare
    encoderOpening := []
    encoderClosing := []
    decoderOpening := []
    decoderClosing := ["return new " ++ typeName ++ "(" ++ argumentList plans.decode ++ ");"]
    lead := ""
    value := getter receiver
    target := declare }

variable {scope : RenderScope}

/-- The functions of all messages have one form. -/
theorem codings_of_messages {method : Method} {plan : PlannedMethod}
    (h : planMethod scope method = .ok plan) (service : String) :
    List.Forall₂ (fun message coding =>
        ∃ plans, scope.plans message.fields = .ok plans ∧ coding.OfMessage plans)
      method.messages (plan.codings service method.name) := by
  obtain ⟨hrequest, hresponse, hevents⟩ := planMethod_eq_ok_iff.mp h
  refine .cons ⟨_, hrequest, rfl, rfl⟩ (.cons ⟨_, hresponse, rfl, rfl⟩ ?_)
  refine List.forall₂_map_right_iff.mpr ?_
  refine (RenderScope.forall₂_of_planEvents hevents).imp fun message event hplans => ?_
  exact ⟨event.plans, hplans, rfl, rfl⟩

theorem codings_of_planMethod {method : Method} {plan : PlannedMethod}
    (h : planMethod scope method = .ok plan) (service : String) :
    List.Forall₂ (fun message coding =>
        ∃ plans, scope.plans message.fields = .ok plans ∧ coding.Follows plans true)
      method.messages (plan.codings service method.name) :=
  (codings_of_messages h service).imp fun _ _ ⟨plans, hplans, hmessage⟩ =>
    ⟨plans, hplans, hmessage.follows⟩

/-- What an encoder has in it, with the lines in front of its steps. -/
theorem trace_encoderBody (opening : List String) (lead : String) (plan : Plan) (depth : Nat) :
    (Code.all (opening.map .line ++ [encoderBody lead plan])).trace depth =
      (Code.all (opening.map .line ++ (encodeMessage lead plan).map (·.code) ++
        ["return clientMessage;"].map .line)).trace depth := by
  simp [encoderBody]

theorem inText_of_methodCode (service : String) (method : Method) (plan : PlannedMethod) :
    ∀ coding ∈ plan.codings service method.name,
      coding.InText ((methodCode scope service method plan).render indent) := by
  intro coding hmem
  rcases List.mem_cons.mp hmem with rfl | hmem
  · constructor
    · exact Code.PartOf.inBlock (.item 3 rfl (.braces 10 rfl .whole)) rfl
        (trace_encoderBody (requestOpening _) requestLead plan.request.encode)
    · exact Code.PartOf.inBlock (.item 3 rfl (.braces 12 rfl .whole)) rfl
        (Code.trace_all_nested [_, _] _ [_])
  rcases List.mem_cons.mp hmem with rfl | hmem
  · constructor
    · exact Code.PartOf.inBlock (.item 3 rfl (.braces 16 rfl .whole)) rfl
        (trace_encoderBody responseOpening responseLead plan.response.encode)
    · exact Code.PartOf.inBlock (.item 3 rfl (.braces 18 rfl .whole)) rfl
        (Code.trace_all_nested [_, _] _ [_])
  obtain ⟨event, hevent, rfl⟩ := List.mem_map.mp hmem
  have hhandler : Code.PartOf (eventHandler plan.events)
      (if plan.events.isEmpty then .empty else .blank ++ eventHandler plan.events) := by
    rw [if_neg (by simpa using List.ne_nil_of_mem hevent)]
    exact .second _ .whole
  have hcase : Code.PartOf (eventCase event) (eventHandler plan.events) :=
    .braces 0 rfl (.braces 2 rfl (Code.PartOf.whole.all (List.mem_map_of_mem hevent)))
  have hencoder : Code.PartOf (eventEncoder event)
      (.all (plan.events.map fun event => .blank ++ eventEncoder event)) :=
    (Code.PartOf.second _ .whole).all
      (List.mem_map_of_mem (f := fun event => Code.blank ++ eventEncoder event) hevent)
  constructor
  · exact Code.PartOf.inBlock (.item 3 rfl (.braces 19 rfl hencoder)) rfl
      (trace_encoderBody (eventOpening _) (eventLead event.label) event.plans.encode)
  · exact Code.PartOf.inBlock (.item 3 rfl (.braces 20 rfl (hcase.trans hhandler))) rfl
      (Code.trace_all_nested [] _ [_, _])

theorem customCoding_follows {type : CustomType} {plans : Plans}
    (hplans : scope.plans type.fields = .ok plans) :
    (customCoding scope type plans).Follows plans (!plans.encode.fixed.isEmpty) := by
  obtain ⟨hencode, hdecode⟩ := RenderScope.plans_eq_ok_iff.mp hplans
  have hsame : plans.encode.fixed.isEmpty = plans.decode.fixed.isEmpty := by
    rw [← Bool.not_inj_iff, Bool.eq_iff_iff, Bool.not_eq_true', Bool.not_eq_true',
      RenderScope.isEmpty_fixed_eq_false_iff hencode,
      RenderScope.isEmpty_fixed_eq_false_iff hdecode]
  constructor
  · exact stepsFor_encodeCustom _ _
  · rw [hsame]
    exact stepsFor_decodeCustom _ _

theorem inText_of_customCode (type : CustomType) (plans : Plans) :
    (customCoding scope type plans).InText ((customCode scope type plans).render indent) := by
  constructor
  · exact Code.PartOf.inBlock (.item 3 rfl (.braces 3 rfl .whole)) rfl
      (Code.trace_all_nested [] _ [])
  · exact Code.PartOf.inBlock (.item 3 rfl (.braces 5 rfl .whole)) rfl
      (Code.trace_all_nested [] _ [_])

/-- The codec of a method has the functions of its messages, which look after nulls. -/
theorem codings_of_methodCodec {service : String} {method : Method} {text : String}
    (h : methodCodec scope service method = .ok text) :
    ∃ plan, planMethod scope method = .ok plan ∧
      (∀ coding ∈ plan.codings service method.name, coding.InText text) ∧
      List.Forall₂ (fun message coding =>
          ∃ plans, scope.plans message.fields = .ok plans ∧ coding.Follows plans true)
        method.messages (plan.codings service method.name) := by
  obtain ⟨plan, hplan, h⟩ := bind_eq_ok_iff.mp h
  rw [pure_eq_ok_iff.mp h]
  exact ⟨plan, hplan, inText_of_methodCode service method plan, codings_of_planMethod hplan _⟩

/-- The functions of a custom type look after nulls if the type has a field of some width. -/
theorem coding_of_customCodec {type : CustomType} {text : String}
    (h : customCodec scope type = .ok text) :
    ∃ plans, scope.plans type.fields = .ok plans ∧
      (customCoding scope type plans).InText text ∧
      (customCoding scope type plans).Follows plans (!plans.encode.fixed.isEmpty) := by
  obtain ⟨plans, hplans, h⟩ := bind_eq_ok_iff.mp h
  rw [pure_eq_ok_iff.mp h]
  exact ⟨plans, hplans, inText_of_customCode type plans, customCoding_follows hplans⟩

end Classes

end WireCodecs.Java
