import WireCodecs.Proofs.Codec.Balance
import WireCodecs.Proofs.Codec.Java.Lacks
import WireCodecs.Proofs.Codec.Steps

/-! The braces of Java codecs. All of them come from blocks, except in three places: the lines
around a value that may be null, which are balanced together, and the argument of an annotation,
which is balanced in its line. -/

namespace WireCodecs.Java

open Text Code

section Names

variable {planned : PlannedField} {plan : Plan}

theorem braceless_argumentList (h : plan.IsBraceless) : Braceless (argumentList plan) :=
  .joinWith (.literal rfl) h.parameters

theorem braceless_getter {receiver : String} (hreceiver : Braceless receiver)
    (h : planned.IsBraceless) : Braceless (getter receiver planned) :=
  ((hreceiver.append (.literal rfl)).append h.name.capital).append (.literal rfl)

end Names

section Bodies

/-- The texts in a step have no braces. -/
def EncodeStep.IsBraceless : EncodeStep → Prop
  | fixed planned offset value => planned.IsBraceless ∧ Braceless offset ∧ Braceless value
  | framed planned value _ => planned.IsBraceless ∧ Braceless value
  | _ => True

theorem EncodeStep.IsBraceless.isBalanced_code {step : EncodeStep} (h : step.IsBraceless) :
    step.code.IsBalanced := by
  cases step with
  | beginFrame => exact (isBalanced_line (.literal rfl)).append isBalanced_blank
  | newInitialFrame => exact isBalanced_line (.append (.literal rfl) (.literal rfl))
  | initialFrame => exact isBalanced_line (.literal rfl)
  | endFrame => exact isBalanced_blank.append (isBalanced_line (.literal rfl))
  | fixed planned offset value =>
    obtain ⟨hplanned, hoffset, hvalue⟩ := h
    have hwire : Braceless (wireValue planned.field value) := by
      unfold wireValue
      split
      · exact hvalue.append (.literal rfl)
      · exact hvalue
    refine isBalanced_line ((hplanned.mapping.invoke ?_).append (.literal rfl))
    simp only [List.forall_mem_cons]
    exact ⟨.literal rfl, hoffset, hwire, List.forall_mem_nil _⟩
  | framed planned value nullable =>
    obtain ⟨hplanned, hvalue⟩ := h
    have hcall : Braceless (planned.op.invoke ["clientMessage", value] ++ ";") := by
      refine (hplanned.mapping.invoke ?_).append (.literal rfl)
      simp only [List.forall_mem_cons]
      exact ⟨.literal rfl, hvalue, List.forall_mem_nil _⟩
    rw [code]
    cases nullable with
    | false => exact isBalanced_line hcall
    | true =>
      have hif : bracesOf ("if (" ++ value ++ " == null) \x7b") = ['\x7b'] := by
        rw [bracesOf_append, bracesOf_append, bracesOf_of_braceless hvalue, bracesOf_literal rfl,
          bracesOf_literal rfl]
        rfl
      have hthen : bracesOf "    clientMessage.add(NULL_FRAME.copy());" = [] :=
        bracesOf_literal rfl
      have helse : bracesOf "\x7d else \x7b" = ['\x7d', '\x7b'] := bracesOf_literal rfl
      have hindented :
          bracesOf ("    " ++ (planned.op.invoke ["clientMessage", value] ++ ";")) = [] :=
        Lacks.append (.literal rfl) hcall
      have hend : bracesOf "\x7d" = ['\x7d'] := bracesOf_literal rfl
      rw [Code.IsBalanced]
      simp only [if_true, bracesOf_append_code, Code.bracesOf, hif, hthen, helse, hindented, hend]
      decide

theorem isBalanced_encodeSteps {steps : List EncodeStep} (h : ∀ step ∈ steps, step.IsBraceless) :
    (Code.all (steps.map (·.code))).IsBalanced :=
  isBalanced_all <| List.forall_mem_map.mpr fun step hmem =>
    EncodeStep.IsBraceless.isBalanced_code (h step hmem)

variable {lead : String} {plan : Plan}

theorem isBraceless_of_mem_encodeFields {value : PlannedField → String} (hlead : Braceless lead)
    (hplan : plan.IsBraceless)
    (hvalue : ∀ planned, planned.IsBraceless → Braceless (value planned)) :
    ∀ step ∈ encodeFields lead plan value, step.IsBraceless := by
  rw [encodeFields, List.forall_mem_append, List.forall_mem_map, List.forall_mem_cons,
    List.forall_mem_map]
  refine ⟨fun planned hmem => ?_, trivial, fun planned hmem => ?_⟩
  · have hplanned := hplan.fixed planned hmem
    exact ⟨hplanned, lacks_offsetName hlead hplanned.toTextsLack, hvalue planned hplanned⟩
  · have hplanned := hplan.framed planned hmem
    exact ⟨hplanned, hvalue planned hplanned⟩

theorem isBraceless_of_mem_encodeCustom {value : PlannedField → String} (hplan : plan.IsBraceless)
    (hvalue : ∀ planned, planned.IsBraceless → Braceless (value planned)) :
    ∀ step ∈ encodeCustom plan value, step.IsBraceless := by
  rw [encodeCustom, List.forall_mem_append, List.forall_mem_cons, List.forall_mem_singleton]
  refine ⟨⟨trivial, ?_⟩, trivial⟩
  split
  · refine List.forall_mem_map.mpr fun planned hmem => ?_
    exact ⟨hplan.framed planned hmem, hvalue planned (hplan.framed planned hmem)⟩
  · exact List.forall_mem_cons.mpr
      ⟨trivial, isBraceless_of_mem_encodeFields (.literal rfl) hplan hvalue⟩

def DecodeStep.IsBraceless : DecodeStep → Prop
  | fixed planned offset target => planned.IsBraceless ∧ Braceless offset ∧ Braceless target
  | framed planned target _ => planned.IsBraceless ∧ Braceless target
  | _ => True

theorem DecodeStep.IsBraceless.isBalanced_code {step : DecodeStep} (h : step.IsBraceless) :
    step.code.IsBalanced := by
  cases step with
  | beginFrame =>
    exact ((isBalanced_line (.literal rfl)).append (isBalanced_line (.literal rfl))).append
      isBalanced_blank
  | emptyInitialFrame =>
    exact (isBalanced_line (.literal rfl)).append (isBalanced_line (.literal rfl))
  | initialFrame => exact isBalanced_line (.literal rfl)
  | endFrame =>
    exact (isBalanced_blank.append (isBalanced_line (.literal rfl))).append isBalanced_blank
  | fixed planned offset target =>
    obtain ⟨hplanned, hoffset, htarget⟩ := h
    have hread : Braceless (planned.op.invoke ["initialFrame.content", offset]) := by
      refine hplanned.mapping.invoke ?_
      simp only [List.forall_mem_cons]
      exact ⟨.literal rfl, hoffset, List.forall_mem_nil _⟩
    have hvalue : Braceless
        (fromWire planned (planned.op.invoke ["initialFrame.content", offset])) := by
      unfold fromWire
      split
      · exact ((hplanned.mapping.spelling.append (.literal rfl)).append hread).append (.literal rfl)
      · exact hread
    exact isBalanced_line (((htarget.append (.literal rfl)).append hvalue).append (.literal rfl))
  | framed planned target nullable =>
    obtain ⟨hplanned, htarget⟩ := h
    have hread : Braceless (planned.op.invoke ["iterator"]) :=
      hplanned.mapping.invoke (List.forall_mem_singleton.mpr (.literal rfl))
    have hnull : Braceless
        (if nullable then "CodecUtil.nextFrameIsNullEndFrame(iterator) ? null : " else "") := by
      split <;> exact .literal rfl
    exact isBalanced_line
      ((((htarget.append (.literal rfl)).append hnull).append hread).append (.literal rfl))

theorem isBalanced_decodeSteps {steps : List DecodeStep} (h : ∀ step ∈ steps, step.IsBraceless) :
    (Code.all (steps.map (·.code))).IsBalanced :=
  isBalanced_all <| List.forall_mem_map.mpr fun step hmem =>
    DecodeStep.IsBraceless.isBalanced_code (h step hmem)

theorem isBraceless_of_mem_decodeFields {target : PlannedField → String} (hlead : Braceless lead)
    (hplan : plan.IsBraceless)
    (htarget : ∀ planned, planned.IsBraceless → Braceless (target planned)) :
    ∀ step ∈ decodeFields lead plan target, step.IsBraceless := by
  rw [decodeFields, List.forall_mem_append, List.forall_mem_cons, List.forall_mem_map,
    List.forall_mem_map]
  refine ⟨⟨by split <;> trivial, fun planned hmem => ?_⟩, fun planned hmem => ?_⟩
  · have hplanned := hplan.fixed planned hmem
    exact ⟨hplanned, lacks_offsetName hlead hplanned.toTextsLack, htarget planned hplanned⟩
  · have hplanned := hplan.framed planned hmem
    exact ⟨hplanned, htarget planned hplanned⟩

theorem isBraceless_of_mem_decodeCustom {target : PlannedField → String} (hplan : plan.IsBraceless)
    (htarget : ∀ planned, planned.IsBraceless → Braceless (target planned)) :
    ∀ step ∈ decodeCustom plan target, step.IsBraceless := by
  rw [decodeCustom, List.forall_mem_append, List.forall_mem_cons, List.forall_mem_singleton]
  refine ⟨⟨trivial, ?_⟩, trivial⟩
  split
  · refine List.forall_mem_map.mpr fun planned hmem => ?_
    exact ⟨hplan.framed planned hmem, htarget planned (hplan.framed planned hmem)⟩
  · exact isBraceless_of_mem_decodeFields (.literal rfl) hplan htarget

end Bodies

section Constants

variable {lead : String} {plan : Plan}

theorem isBalanced_offsetCode {base : String} (hlead : Braceless lead) (hbase : Braceless base)
    (hplan : plan.IsBraceless) : (offsetCode lead base plan).IsBalanced := by
  refine isBalanced_all (List.forall_mem_map.mpr fun constant hmem => ?_)
  obtain ⟨hname, hdefinition⟩ := lacks_of_mem_offsetChain hlead
    (fun planned hplanned => (hplan.fixed planned hplanned).toTextsLack) hbase constant hmem
  exact isBalanced_line (.append (.append (.between rfl rfl hname) hdefinition) (.literal rfl))

theorem isBalanced_messageTypeCode (hlead : Braceless lead) (id : MessageId) :
    (messageTypeCode lead id).IsBalanced := by
  have hname : Braceless (messageTypeName lead) := hlead.append (.literal rfl)
  exact .append (isBalanced_line (.append (.literal rfl) id.lacks_hex)) <|
    isBalanced_line
      (.append (.append (.between rfl rfl hname) (lacks_toString _)) (.literal rfl))

end Constants

section Templates

theorem isBalanced_generatedNote : generatedNote.IsBalanced :=
  isBalanced_line (.between rfl rfl lacks_fingerprintPlaceholder)

theorem isBalanced_fileHeader {namespaceName : String} (h : Braceless namespaceName) :
    (fileHeader namespaceName).IsBalanced := by
  refine isBalanced_all ?_
  simp only [List.forall_mem_cons]
  exact ⟨isBalanced_line (.between rfl rfl h),
    isBalanced_blank, isBalanced_line (.literal rfl), isBalanced_line (.literal rfl),
    isBalanced_line (.literal rfl), isBalanced_line (.literal rfl), isBalanced_line (.literal rfl),
    isBalanced_blank, isBalanced_line (.literal rfl),
    isBalanced_line (.append (.literal rfl) (.literal rfl)), isBalanced_blank,
    List.forall_mem_nil _⟩

theorem isBalanced_documentation {doc since : Option String}
    (hdoc : ∀ text ∈ doc.toList, Braceless text) (hsince : ∀ text ∈ since.toList, Braceless text) :
    (documentation doc since).IsBalanced := by
  have hnote (text : String) (h : text ∈ doc.toList) :
      (comment " * " (trim text) : Code Empty).IsBalanced :=
    isBalanced_comment (.literal rfl) (hdoc text h).trim
  have hversion (text : String) (h : text ∈ since.toList) :
      (line (" * @since " ++ text) : Code Empty).IsBalanced :=
    isBalanced_line (.append (.literal rfl) (hsince text h))
  have hlines {first second : Code Empty} (hfirst : first.IsBalanced)
      (hsecond : second.IsBalanced) :
      (line "/**" ++ first ++ second ++ line " */" : Code Empty).IsBalanced :=
    .append (.append (.append (isBalanced_line (.literal rfl)) hfirst) hsecond)
      (isBalanced_line (.literal rfl))
  cases doc with
  | none =>
    cases since with
    | none => exact isBalanced_empty
    | some since => exact hlines isBalanced_empty (hversion since (by simp))
  | some doc =>
    cases since with
    | none => exact hlines (hnote doc (by simp)) isBalanced_empty
    | some since => exact hlines (hnote doc (by simp)) (hversion since (by simp))

theorem isBalanced_separated {codes : List (Code Empty)} (h : ∀ code ∈ codes, code.IsBalanced) :
    (separated codes).IsBalanced := by
  fun_induction separated codes with
  | case1 => exact isBalanced_empty
  | case2 code => exact h code List.mem_cons_self
  | case3 code codes _ ih =>
    rw [List.forall_mem_cons] at h
    exact (h.1.append isBalanced_blank).append (ih h.2)

variable {plan : Plan} {lead : String}

theorem isBalanced_parametersClass {name : String} (hname : Braceless name)
    (hplan : plan.IsBraceless) : (parametersClass name plan).IsBalanced := by
  have hannotation : bracesOf ("@edu.umd.cs.findbugs.annotations.SuppressFBWarnings" ++
      "(\x7b\"URF_UNREAD_PUBLIC_OR_PROTECTED_FIELD\"\x7d)") = ['\x7b', '\x7d'] := by
    rw [bracesOf_append, bracesOf_literal rfl, bracesOf_literal rfl]
    rfl
  refine IsBalanced.append ?_ (isBalanced_braces (.append (.literal rfl) hname) ?_)
  · rw [Code.IsBalanced, Code.bracesOf, hannotation]
    decide
  · refine List.forall_mem_singleton.mpr (isBalanced_separated ?_)
    refine List.forall_mem_map.mpr fun planned hmem => ?_
    have hplanned := hplan planned hmem
    have htexts : ∀ text ∈ planned.field.since.toList ++ planned.field.doc.toList,
        Braceless text := fun text htext => hplanned.texts text (.tail _ (.tail _ htext))
    rw [List.forall_mem_append] at htexts
    exact (isBalanced_documentation htexts.2 htexts.1).append
      (isBalanced_line (.between rfl rfl (lacks_declare hplanned.toTextsLack)))

end Templates

section Messages

variable {plan : Plan} {lead : String}

theorem isBalanced_newMessage : newMessage.IsBalanced := by
  rw [newMessage]
  exact isBalanced_line (.literal rfl)

theorem isBalanced_setPartition : setPartition.IsBalanced := by
  rw [setPartition]
  exact isBalanced_line (.literal rfl)

theorem isBalanced_newMessageFrame (hlead : Braceless lead) :
    (newMessageFrame lead).IsBalanced := by
  have hsize : Braceless (frameSizeName lead) := hlead.append (.literal rfl)
  exact isBalanced_line (.between rfl rfl hsize)

theorem isBalanced_setMessageType (hlead : Braceless lead) :
    (setMessageType lead).IsBalanced := by
  have htype : Braceless (messageTypeName lead) := hlead.append (.literal rfl)
  exact isBalanced_line (.between rfl rfl htype)

theorem isBalanced_encoderBody (hlead : Braceless lead) (hplan : plan.IsBraceless) :
    (encoderBody lead plan).IsBalanced :=
  .append
    (isBalanced_encodeSteps (isBraceless_of_mem_encodeFields hlead hplan fun _ hplanned =>
      hplanned.parameter))
    (isBalanced_line (.literal rfl))

theorem isBalanced_requestEncoder {operation : String} (hoperation : Braceless operation)
    (hplan : plan.IsBraceless) : (requestEncoder operation plan).IsBalanced := by
  have hlead : Braceless requestLead := by decide
  refine isBalanced_braces (.between rfl rfl (lacks_parameterList hplan.textsLack)) ?_
  simp only [List.forall_mem_cons]
  exact ⟨isBalanced_newMessage, isBalanced_line (.between rfl rfl hoperation),
    isBalanced_newMessageFrame hlead, isBalanced_setMessageType hlead, isBalanced_setPartition,
    isBalanced_encoderBody hlead hplan, List.forall_mem_nil _⟩

theorem isBalanced_responseEncoder (hplan : plan.IsBraceless) :
    (responseEncoder plan).IsBalanced := by
  have hlead : Braceless responseLead := by decide
  refine isBalanced_braces (.between rfl rfl (lacks_parameterList hplan.textsLack)) ?_
  simp only [List.forall_mem_cons]
  exact ⟨isBalanced_newMessage, isBalanced_newMessageFrame hlead, isBalanced_setMessageType hlead,
    isBalanced_encoderBody hlead hplan, List.forall_mem_nil _⟩

theorem isBalanced_eventEncoder {event : PlannedEvent} (h : event.IsBraceless) :
    (eventEncoder event).IsBalanced := by
  have hlead := lacks_eventLead h.label
  have hparameters := lacks_parameterList h.plans.encode.textsLack
  refine isBalanced_braces
    (.append (.append (.between rfl rfl h.label) hparameters) (.literal rfl)) ?_
  simp only [List.forall_mem_cons]
  exact ⟨isBalanced_newMessage, isBalanced_newMessageFrame hlead, isBalanced_line (.literal rfl),
    isBalanced_setMessageType hlead, isBalanced_setPartition,
    isBalanced_encoderBody hlead h.plans.encode, List.forall_mem_nil _⟩

theorem isBalanced_messageDecoder {codecClass name target : String} (hclass : Braceless codecClass)
    (hname : Braceless name) (htarget : Braceless target) (hlead : Braceless lead)
    (hplan : plan.IsBraceless) :
    (messageDecoder codecClass name target lead plan).IsBalanced := by
  have hparameters : Braceless (name ++ "Parameters") := hname.append (.literal rfl)
  have hmember (planned : PlannedField) (h : planned.IsBraceless) :
      Braceless (target ++ "." ++ planned.parameter) :=
    .append (.append htarget (.literal rfl)) h.parameter
  have hsteps := isBraceless_of_mem_decodeFields hlead hplan hmember
  refine isBalanced_braces (.append (.append (.append (.append (.between rfl rfl hclass)
    hparameters) (.literal rfl)) hname) (.literal rfl)) ?_
  simp only [List.forall_mem_cons]
  exact ⟨isBalanced_line (.literal rfl),
    isBalanced_line (.append (.append (.append (.append (.append hparameters (.literal rfl))
      htarget) (.literal rfl)) hparameters) (.literal rfl)),
    isBalanced_decodeSteps hsteps, isBalanced_line (.between rfl rfl htarget),
    List.forall_mem_nil _⟩

end Messages

section Events

theorem isBalanced_eventCase {event : PlannedEvent} (h : event.IsBraceless) :
    (eventCase event).IsBalanced := by
  have hlead := lacks_eventLead h.label
  have htype : Braceless (messageTypeName (eventLead event.label)) := hlead.append (.literal rfl)
  have hsteps := isBraceless_of_mem_decodeFields hlead h.plans.decode fun _ h =>
    lacks_declare h.toTextsLack
  refine isBalanced_braces (.between rfl rfl htype) ?_
  simp only [List.forall_mem_cons]
  exact ⟨isBalanced_decodeSteps hsteps,
    isBalanced_line (.append (.append (.between rfl rfl h.label)
      (braceless_argumentList h.plans.decode)) (.literal rfl)),
    isBalanced_line (.literal rfl), List.forall_mem_nil _⟩

theorem isBalanced_eventDeclaration {event : PlannedEvent} (h : event.IsBraceless) :
    (eventDeclaration event).IsBalanced :=
  isBalanced_blank.append <|
    isBalanced_line (.append (.append (.between rfl rfl h.label)
      (lacks_parameterList h.plans.decode.textsLack)) (.literal rfl))

theorem isBalanced_eventHandler {events : List PlannedEvent}
    (h : ∀ event ∈ events, event.IsBraceless) : (eventHandler events).IsBalanced := by
  refine isBalanced_braces (.literal rfl) ?_
  simp only [List.forall_mem_cons]
  refine ⟨isBalanced_braces (.literal rfl) ?_, isBalanced_all ?_, List.forall_mem_nil _⟩
  · simp only [List.forall_mem_cons]
    exact ⟨isBalanced_line (.literal rfl), isBalanced_line (.literal rfl),
      isBalanced_all <| List.forall_mem_map.mpr fun event hmem =>
        isBalanced_eventCase (h event hmem),
      isBalanced_line (.append (.literal rfl) (.literal rfl)), List.forall_mem_nil _⟩
  · exact List.forall_mem_map.mpr fun event hmem => isBalanced_eventDeclaration (h event hmem)

end Events

section Codecs

variable {language : Language} {types : TypeScope} {namespaceName : String}

structure PlannedMethod.IsBraceless (plan : PlannedMethod) : Prop where
  request : plan.request.IsBraceless
  response : plan.response.IsBraceless
  events : ∀ event ∈ plan.events, event.IsBraceless

theorem isBraceless_of_planMethod {method : Method} {plan : PlannedMethod}
    (hmethod : ∀ text ∈ method.texts, Braceless text)
    (h : planMethod ⟨language.mappingSet, types, namespaceName⟩ method = .ok plan) :
    plan.IsBraceless := by
  have hmessages : ∀ text ∈ method.messages.flatMap (·.texts), Braceless text :=
    fun text hmem => hmethod text (.tail _ (List.mem_append_right _ hmem))
  rw [Method.messages, List.flatMap_cons, List.flatMap_cons, List.forall_mem_append,
    List.forall_mem_append] at hmessages
  obtain ⟨hrequest, hresponse, hevents⟩ := hmessages
  obtain ⟨hrequestPlans, hresponsePlans, heventPlans⟩ := planMethod_eq_ok_iff.mp h
  exact {
    request := RenderScope.isBraceless_of_plans
      (fun text hmem => hrequest text (List.mem_append_right _ hmem)) hrequestPlans
    response := RenderScope.isBraceless_of_plans
      (fun text hmem => hresponse text (List.mem_append_right _ hmem)) hresponsePlans
    events := RenderScope.isBraceless_of_planEvents hevents heventPlans }

theorem isBalanced_eventConstants {event : PlannedEvent} (h : event.IsBraceless) :
    (eventConstants event).IsBalanced :=
  have hlead := lacks_eventLead h.label
  .append (isBalanced_messageTypeCode hlead event.id)
    (isBalanced_offsetCode hlead (by decide) h.plans.encode)

theorem isBalanced_methodCode {scope : RenderScope} {service : String} {method : Method}
    {plan : PlannedMethod} (hnamespace : Braceless scope.namespaceName)
    (hservice : Braceless service) (hmethod : ∀ text ∈ method.texts, Braceless text)
    (hplan : plan.IsBraceless) : (methodCode scope service method plan).IsBalanced := by
  have hname : Braceless method.name := hmethod _ List.mem_cons_self
  have hclass : Braceless (className service method.name) :=
    .append (.append hservice.capital hname.capital) (.literal rfl)
  have hoperation : Braceless (Naming.capital service ++ "." ++ Naming.capital method.name) :=
    .append (.append hservice.capital (.literal rfl)) hname.capital
  have hsince : ∀ text ∈ method.since.toList, Braceless text := fun text hmem =>
    hmethod text (.tail _ (List.mem_append_left _ (List.mem_append_left _ hmem)))
  have hdoc : ∀ text ∈ method.doc.toList, Braceless text := fun text hmem =>
    hmethod text (.tail _ (List.mem_append_left _ (List.mem_append_right _ hmem)))
  have hrequest : Braceless requestLead := by decide
  have hresponse : Braceless responseLead := by decide
  have hhandler : Code.IsBalanced
      (if plan.events.isEmpty then .empty else .blank ++ eventHandler plan.events) := by
    split
    · exact isBalanced_empty
    · exact isBalanced_blank.append (isBalanced_eventHandler hplan.events)
  refine isBalanced_all ?_
  simp only [List.forall_mem_cons]
  refine ⟨isBalanced_fileHeader hnamespace, isBalanced_documentation hdoc hsince,
    isBalanced_generatedNote, isBalanced_braces (.append (.literal rfl) hclass) ?_,
    List.forall_mem_nil _⟩
  simp only [List.forall_mem_cons]
  exact ⟨isBalanced_messageTypeCode hrequest _, isBalanced_messageTypeCode hresponse _,
    isBalanced_offsetCode hrequest (by decide) hplan.request.encode,
    isBalanced_offsetCode hresponse (by decide) hplan.response.encode,
    isBalanced_all (List.forall_mem_map.mpr fun event hmem =>
      isBalanced_eventConstants (hplan.events event hmem)),
    isBalanced_blank,
    isBalanced_braces (.between rfl rfl hclass)
      (List.forall_mem_nil _),
    isBalanced_blank,
    isBalanced_parametersClass (.literal rfl) hplan.request.decode, isBalanced_blank,
    isBalanced_requestEncoder hoperation hplan.request.encode, isBalanced_blank,
    isBalanced_messageDecoder hclass (.literal rfl) (.literal rfl) hrequest hplan.request.decode,
    isBalanced_blank,
    isBalanced_parametersClass (.literal rfl) hplan.response.decode, isBalanced_blank,
    isBalanced_responseEncoder hplan.response.encode, isBalanced_blank,
    isBalanced_messageDecoder hclass (.literal rfl) (.literal rfl) hresponse hplan.response.decode,
    isBalanced_all (List.forall_mem_map.mpr fun event hmem =>
      isBalanced_blank.append (isBalanced_eventEncoder (hplan.events event hmem))),
    hhandler, List.forall_mem_nil _⟩

theorem isBalanced_customCode {type : CustomType} {plans : Plans}
    (hnamespace : Braceless namespaceName) (htype : ∀ text ∈ type.texts, Braceless text)
    (hplans : plans.IsBraceless) :
    (customCode ⟨language.mappingSet, types, namespaceName⟩ type plans).IsBalanced := by
  have hname : Braceless (language.mappingSet.typeCase type.name) :=
    language.lacks_typeCase (htype _ List.mem_cons_self)
  have hreceiver := language.lacks_parameter hname
  have hsince : ∀ text ∈ type.since.toList, Braceless text := fun text hmem =>
    htype text (.tail _ (List.mem_append_left _ hmem))
  have hclass : Braceless (language.mappingSet.typeCase type.name ++ "Codec") :=
    hname.append (.literal rfl)
  have hoffsets : Code.IsBalanced
      (if plans.encode.fixed.isEmpty then .empty
        else offsetCode "" "0" plans.encode ++ .blank) := by
    split
    · exact isBalanced_empty
    · exact .append (isBalanced_offsetCode (.literal rfl) (.literal rfl) hplans.encode)
        isBalanced_blank
  have hencode := isBraceless_of_mem_encodeCustom hplans.encode fun _ => braceless_getter hreceiver
  have hdecode := isBraceless_of_mem_decodeCustom hplans.decode fun _ h =>
    lacks_declare h.toTextsLack
  refine isBalanced_all ?_
  simp only [List.forall_mem_cons]
  refine ⟨isBalanced_fileHeader hnamespace, isBalanced_documentation (List.forall_mem_nil _) hsince,
    isBalanced_generatedNote, isBalanced_braces (.append (.literal rfl) hclass) ?_,
    List.forall_mem_nil _⟩
  simp only [List.forall_mem_cons]
  refine ⟨hoffsets, isBalanced_braces (.between rfl rfl hclass)
    (List.forall_mem_nil _), isBalanced_blank, isBalanced_braces ?_ ?_, isBalanced_blank,
    isBalanced_braces (.between rfl rfl hname) ?_,
    List.forall_mem_nil _⟩
  · exact .append (.append (.between rfl rfl hname) hreceiver)
      (.literal rfl)
  · exact List.forall_mem_singleton.mpr (isBalanced_encodeSteps hencode)
  · simp only [List.forall_mem_cons]
    exact ⟨isBalanced_decodeSteps hdecode,
      isBalanced_line (.append (.append (.between rfl rfl hname)
        (braceless_argumentList hplans.decode)) (.literal rfl)), List.forall_mem_nil _⟩

variable {text : String}

theorem nests_of_methodCodec {service : String} {method : Method}
    (hnamespace : Braceless namespaceName) (hservice : Braceless service)
    (hmethod : ∀ text ∈ method.texts, Braceless text)
    (h : methodCodec ⟨language.mappingSet, types, namespaceName⟩ service method = .ok text) :
    Nests 0 0 (bracesOf text) := by
  obtain ⟨plan, hplan, h⟩ := bind_eq_ok_iff.mp h
  rw [pure_eq_ok_iff.mp h]
  exact (isBalanced_methodCode hnamespace hservice hmethod
    (isBraceless_of_planMethod hmethod hplan)).nests_render (by decide)

theorem nests_of_customCodec {type : CustomType} (hnamespace : Braceless namespaceName)
    (htype : ∀ text ∈ type.texts, Braceless text)
    (h : customCodec ⟨language.mappingSet, types, namespaceName⟩ type = .ok text) :
    Nests 0 0 (bracesOf text) := by
  obtain ⟨plans, hplans, h⟩ := bind_eq_ok_iff.mp h
  rw [pure_eq_ok_iff.mp h]
  have hfields : ∀ text ∈ type.fields.flatMap (·.texts), Braceless text :=
    fun text hmem => htype text (.tail _ (List.mem_append_right _ hmem))
  exact (isBalanced_customCode hnamespace htype
    (RenderScope.isBraceless_of_plans hfields hplans)).nests_render (by decide)

end Codecs

end WireCodecs.Java
