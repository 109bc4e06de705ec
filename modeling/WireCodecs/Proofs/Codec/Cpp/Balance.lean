import WireCodecs.Proofs.Codec.Balance
import WireCodecs.Proofs.Codec.Cpp.Lacks

/-! The braces of C++ codecs. All of them come from blocks, of which some end like a type
definition, except for the expression that puts a decoded custom type together, which is balanced in
its line. -/

namespace WireCodecs.Cpp

open Text Code

section Names

variable {name : String} {plan : Plan} {event : PlannedEvent}

theorem braceless_argumentList (h : plan.IsBraceless) : Braceless (argumentList plan) :=
  .joinWith (.literal rfl) h.parameters

theorem braceless_handlerName (h : event.IsBraceless) : Braceless (handlerName event) :=
  .append (.literal rfl) h.label.snake

theorem braceless_customStructName (h : Braceless name) : Braceless (customStructName name) :=
  .append h.lowercase (.literal rfl)

theorem braceless_guard (h : Braceless name) : Braceless (guard name) :=
  .append h.upperSnake (.literal rfl)

end Names

section Bodies

/-- The texts in a step have no braces. -/
def EncodeStep.IsBraceless : EncodeStep → Prop
  | set planned value _ _ => planned.IsBraceless ∧ Braceless value
  | _ => True

theorem EncodeStep.IsBraceless.isBalanced_code {step : EncodeStep} (h : step.IsBraceless) :
    step.code.IsBalanced := by
  cases step with
  | beginFrame => exact isBalanced_line (.literal rfl)
  | endFrame => exact isBalanced_line (.literal rfl)
  | set planned value last nullable =>
    obtain ⟨hplanned, hvalue⟩ := h
    have harguments : ∀ argument ∈ if last then [value, "true"] else [value],
        Braceless argument := by
      split
      · simp only [List.forall_mem_cons]
        exact ⟨hvalue, .literal rfl, List.forall_mem_nil _⟩
      · exact List.forall_mem_singleton.mpr hvalue
    rw [code]
    split
    · exact isBalanced_line (.between rfl rfl (.joinWith (.literal rfl) harguments))
    · exact isBalanced_line (.append (hplanned.mapping.invoke harguments) (.literal rfl))

theorem isBalanced_encodeSteps {steps : List EncodeStep} (h : ∀ step ∈ steps, step.IsBraceless) :
    (Code.all (steps.map (·.code))).IsBalanced :=
  isBalanced_all <| List.forall_mem_map.mpr fun step hmem =>
    EncodeStep.IsBraceless.isBalanced_code (h step hmem)

theorem isBraceless_of_mem_setFramed {fields : List PlannedField}
    (h : ∀ planned ∈ fields, planned.IsBraceless) :
    ∀ step ∈ setFramed fields, step.IsBraceless := by
  fun_induction setFramed fields with
  | case1 => exact List.forall_mem_nil _
  | case2 planned =>
    rw [List.forall_mem_singleton] at h ⊢
    exact ⟨h, h.parameter⟩
  | case3 planned rest _ ih =>
    rw [List.forall_mem_cons] at h ⊢
    exact ⟨⟨h.1, h.1.parameter⟩, ih h.2⟩

variable {plan : Plan}

theorem isBraceless_of_mem_encodeRequest (h : plan.IsBraceless) :
    ∀ step ∈ encodeRequest plan, step.IsBraceless := by
  rw [encodeRequest, List.forall_mem_append, List.forall_mem_map]
  exact ⟨fun planned hmem => ⟨h.fixed planned hmem, (h.fixed planned hmem).parameter⟩,
    isBraceless_of_mem_setFramed h.framed⟩

theorem isBraceless_of_mem_encodeCustom {receiver : String} (hreceiver : Braceless receiver)
    (h : plan.IsBraceless) : ∀ step ∈ encodeCustom receiver plan, step.IsBraceless := by
  rw [encodeCustom, List.forall_mem_append, List.forall_mem_cons, List.forall_mem_map,
    List.forall_mem_append, List.forall_mem_singleton]
  have hmember (planned : PlannedField) (hplanned : planned.IsBraceless) :
      (EncodeStep.set planned (receiver ++ "." ++ planned.parameter) false false).IsBraceless :=
    ⟨hplanned, .append (.append hreceiver (.literal rfl)) hplanned.parameter⟩
  exact ⟨⟨trivial, fun planned hmem => hmember planned (h.fixed planned hmem),
    fun planned hmem => hmember planned (h.framed planned hmem)⟩, trivial⟩

def DecodeStep.IsBraceless : DecodeStep → Prop
  | get planned _ => planned.IsBraceless
  | _ => True

theorem DecodeStep.IsBraceless.isBalanced_code {step : DecodeStep} (h : step.IsBraceless) :
    step.code.IsBalanced := by
  cases step with
  | beginFrame => exact .append (isBalanced_line (.literal rfl)) (isBalanced_line (.literal rfl))
  | endFrame => exact isBalanced_line (.literal rfl)
  | get planned nullable =>
    have hplanned : planned.IsBraceless := h
    have hread : Braceless
        (if nullable then "msg.get_nullable<" ++ planned.mapping.spelling ++ ">()"
        else planned.op.invoke []) := by
      split
      · exact .between rfl rfl hplanned.mapping.spelling
      · exact hplanned.mapping.invoke (List.forall_mem_nil _)
    exact isBalanced_line
      (.append (.append (.between rfl rfl hplanned.parameter) hread) (.literal rfl))

theorem isBalanced_decodeSteps {steps : List DecodeStep} (h : ∀ step ∈ steps, step.IsBraceless) :
    (Code.all (steps.map (·.code))).IsBalanced :=
  isBalanced_all <| List.forall_mem_map.mpr fun step hmem =>
    DecodeStep.IsBraceless.isBalanced_code (h step hmem)

theorem isBraceless_of_mem_decodeFields (h : plan.IsBraceless) :
    ∀ step ∈ decodeFields plan, step.IsBraceless := by
  rw [decodeFields, List.forall_mem_append, List.forall_mem_map, List.forall_mem_map]
  exact ⟨h.fixed, h.framed⟩

theorem isBraceless_of_mem_decodeCustom (h : plan.IsBraceless) :
    ∀ step ∈ decodeCustom plan, step.IsBraceless := by
  rw [decodeCustom, List.forall_mem_append, List.forall_mem_cons, List.forall_mem_singleton]
  exact ⟨⟨trivial, isBraceless_of_mem_decodeFields h⟩, trivial⟩

end Bodies

section Parts

theorem isBalanced_generatedNote : generatedNote.IsBalanced := by
  rw [generatedNote]
  exact isBalanced_line (.between rfl rfl lacks_fingerprintPlaceholder)

theorem isBalanced_documentation {doc : Option String}
    (h : ∀ text ∈ doc.toList, Braceless text) : (documentation doc).IsBalanced := by
  cases doc with
  | none => exact isBalanced_empty
  | some doc =>
    have hdoc : Braceless doc := h doc (by simp)
    exact .append (.append (isBalanced_line (.literal rfl))
      (isBalanced_comment (.literal rfl) hdoc.trim)) (isBalanced_line (.literal rfl))

theorem isBalanced_definition {header : String} {body : List (Code Empty)}
    (hheader : Braceless header) (hbody : ∀ code ∈ body, code.IsBalanced) :
    (definition header body).IsBalanced :=
  (isBalanced_all hbody).block hheader (bracesOf_literal rfl)

end Parts

section Methods

structure PlannedMethod.IsBraceless (plan : PlannedMethod) : Prop where
  request : plan.request.IsBraceless
  events : ∀ event ∈ plan.events, event.IsBraceless

variable {name : String} {plans : Plans} {event : PlannedEvent} {events : List PlannedEvent}

theorem isBalanced_messageTypeCode (hname : Braceless name) (id : MessageId) :
    (messageTypeCode name id).IsBalanced :=
  .append (isBalanced_line (.append (.literal rfl) id.lacks_hex))
    (isBalanced_line
      (.append (.append (.between rfl rfl hname) (lacks_toString _)) (.literal rfl)))

theorem isBalanced_handlerDeclaration (h : event.IsBraceless) :
    (handlerDeclaration event).IsBalanced :=
  isBalanced_blank.append <|
    isBalanced_line (.append (.append (.between rfl rfl (braceless_handlerName h))
      (lacks_parameterList h.plans.encode.textsLack h.plans.decode.textsLack)) (.literal rfl))

theorem isBalanced_handlerClass (h : ∀ event ∈ events, event.IsBraceless) :
    (handlerClass events).IsBalanced := by
  refine isBalanced_definition (.literal rfl) ?_
  simp only [List.forall_mem_cons]
  exact ⟨isBalanced_line (.literal rfl), isBalanced_line (.literal rfl), isBalanced_blank,
    isBalanced_line (.literal rfl),
    isBalanced_all (List.forall_mem_map.mpr fun event hmem =>
      isBalanced_handlerDeclaration (h event hmem)),
    List.forall_mem_nil _⟩

theorem isBalanced_requestEncoder {service : String} {method : Method} (hname : Braceless name)
    (hservice : Braceless service) (hmethod : Braceless method.name) (hplans : plans.IsBraceless) :
    (requestEncoder name service method plans).IsBalanced := by
  refine isBalanced_braces (.append (.append (.between rfl rfl hname)
    (lacks_parameterList hplans.encode.textsLack hplans.decode.textsLack)) (.literal rfl)) ?_
  simp only [List.forall_mem_cons]
  exact ⟨isBalanced_line (.literal rfl), isBalanced_line (.literal rfl),
    isBalanced_line (.append (.append (.between rfl rfl hservice) hmethod) (.literal rfl)),
    isBalanced_blank, isBalanced_line (.append (.literal rfl) method.request.id.lacks_hex),
    isBalanced_line (.literal rfl), isBalanced_line (.literal rfl), isBalanced_blank,
    isBalanced_encodeSteps (isBraceless_of_mem_encodeRequest hplans.encode),
    isBalanced_line (.literal rfl), List.forall_mem_nil _⟩

theorem isBalanced_eventCase (h : event.IsBraceless) : (eventCase event).IsBalanced := by
  refine isBalanced_braces (.between rfl rfl (lacks_eventConstant h.label)) ?_
  simp only [List.forall_mem_cons]
  exact ⟨isBalanced_decodeSteps (isBraceless_of_mem_decodeFields h.plans.decode),
    isBalanced_line (.append (.append (.append (braceless_handlerName h) (.literal rfl))
      (braceless_argumentList h.plans.decode)) (.literal rfl)),
    isBalanced_line (.literal rfl), List.forall_mem_nil _⟩

theorem isBalanced_eventDispatch (hname : Braceless name)
    (h : ∀ event ∈ events, event.IsBraceless) : (eventDispatch name events).IsBalanced := by
  refine isBalanced_braces (.between rfl rfl hname) ?_
  simp only [List.forall_mem_cons]
  refine ⟨isBalanced_line (.literal rfl), isBalanced_braces (.literal rfl) ?_,
    List.forall_mem_nil _⟩
  simp only [List.forall_mem_cons]
  have hwarning : IsBalanced (.line <| "HZ_LOG(*get_logger(), warning, boost::str(boost::format(" ++
      "\"[event_handler::handle] Unknown message type (%1%) received on event handler.\"" ++
      ") % message_type));") :=
    isBalanced_line (.between rfl rfl (.literal rfl))
  have hcases : ∀ event ∈ events, (eventCase event).IsBalanced :=
    fun event hmem => isBalanced_eventCase (h event hmem)
  exact ⟨isBalanced_all (List.forall_mem_map.mpr hcases), isBalanced_line (.literal rfl), hwarning,
    List.forall_mem_nil _⟩

theorem isBalanced_headerCode {service : String} {method : Method} {plan : PlannedMethod}
    (hservice : Braceless service) (hmethod : ∀ text ∈ method.texts, Braceless text)
    (hplan : plan.IsBraceless) : (headerCode service method plan).IsBalanced := by
  have hstruct := lacks_structName hservice (hmethod _ List.mem_cons_self)
  have hdoc : ∀ text ∈ method.doc.toList, Braceless text := fun text hmem =>
    hmethod text (.tail _ (List.mem_append_left _ (List.mem_append_right _ hmem)))
  have hhandler : Code.IsBalanced
      (if plan.events.isEmpty then .empty else .blank ++ handlerClass plan.events) := by
    split
    · exact isBalanced_empty
    · exact isBalanced_blank.append (isBalanced_handlerClass hplan.events)
  refine isBalanced_all ?_
  simp only [List.forall_mem_cons]
  refine ⟨isBalanced_generatedNote, isBalanced_documentation hdoc,
    isBalanced_definition (.append (.literal rfl) hstruct) ?_, isBalanced_blank,
    List.forall_mem_nil _⟩
  simp only [List.forall_mem_cons]
  exact ⟨isBalanced_messageTypeCode (.literal rfl) _, isBalanced_messageTypeCode (.literal rfl) _,
    isBalanced_all (List.forall_mem_map.mpr fun event hmem =>
      isBalanced_messageTypeCode (lacks_eventConstant (hplan.events event hmem).label) _),
    isBalanced_line (.append (.append (.append (.literal rfl) (.literal rfl))
      (lacks_toString _)) (.literal rfl)),
    isBalanced_blank,
    isBalanced_line (.between rfl rfl (lacks_parameterList hplan.request.encode.textsLack
      hplan.request.decode.textsLack)),
    hhandler, List.forall_mem_nil _⟩

theorem isBalanced_sourceCode {service : String} {method : Method} {plan : PlannedMethod}
    (hservice : Braceless service) (hmethod : Braceless method.name)
    (hplan : plan.IsBraceless) : (sourceCode service method plan).IsBalanced := by
  have hstruct := lacks_structName hservice hmethod
  have hdispatch : Code.IsBalanced (if plan.events.isEmpty then .empty
      else eventDispatch (structName service method.name) plan.events ++ .blank) := by
    split
    · exact isBalanced_empty
    · exact .append (isBalanced_eventDispatch hstruct hplan.events) isBalanced_blank
  refine isBalanced_all ?_
  simp only [List.forall_mem_cons]
  exact ⟨isBalanced_requestEncoder hstruct hservice hmethod hplan.request, isBalanced_blank,
    hdispatch, List.forall_mem_nil _⟩

end Methods

section CustomTypes

variable {language : Language} {types : TypeScope} {namespaceName : String} {type : CustomType}

theorem braceless_encodeParameters {typeName : String} (h : Braceless typeName) :
    Braceless (encodeParameters ⟨language.mappingSet, types, namespaceName⟩ typeName) :=
  .append (.between rfl rfl h) (language.lacks_parameter h)

theorem isBalanced_customHeaderCode (hnamespace : Braceless namespaceName)
    (hname : Braceless type.name) :
    (customHeaderCode ⟨language.mappingSet, types, namespaceName⟩ type).IsBalanced := by
  have htype := language.lacks_typeCase hname
  have hguard := braceless_guard htype
  have hstruct := braceless_customStructName hname
  refine isBalanced_all ?_
  simp only [List.forall_mem_cons]
  refine ⟨isBalanced_generatedNote, isBalanced_line (.append (.literal rfl) hguard),
    isBalanced_line (.append (.literal rfl) hguard), isBalanced_blank,
    isBalanced_line (.literal rfl), isBalanced_blank,
    isBalanced_braces (.append (.literal rfl) hnamespace) ?_, isBalanced_blank,
    isBalanced_line (.append (.literal rfl) hguard), List.forall_mem_nil _⟩
  refine List.forall_mem_singleton.mpr
    (isBalanced_definition (.append (.literal rfl) hstruct) ?_)
  simp only [List.forall_mem_cons]
  exact ⟨isBalanced_line (.between rfl rfl (braceless_encodeParameters htype)), isBalanced_blank,
    isBalanced_line (.between rfl rfl htype), List.forall_mem_nil _⟩

theorem isBalanced_customSourceCode {plans : Plans} (hnamespace : Braceless namespaceName)
    (hname : Braceless type.name) (hplans : plans.IsBraceless) :
    (customSourceCode ⟨language.mappingSet, types, namespaceName⟩ type plans).IsBalanced := by
  have htype := language.lacks_typeCase hname
  have hstruct := braceless_customStructName hname
  have hencode := isBraceless_of_mem_encodeCustom (language.lacks_parameter htype) hplans.encode
  have hdecode := isBraceless_of_mem_decodeCustom hplans.decode
  have hvalue : bracesOf ("return " ++ language.mappingSet.typeCase type.name ++ "\x7b" ++
      argumentList plans.decode ++ "\x7d;") = ['\x7b', '\x7d'] := by
    have harguments : bracesOf (argumentList plans.decode) = [] :=
      braceless_argumentList hplans.decode
    rw [bracesOf_append, bracesOf_append, bracesOf_append, bracesOf_append,
      bracesOf_of_braceless htype, harguments, bracesOf_literal rfl, bracesOf_literal rfl,
      bracesOf_literal rfl]
    rfl
  have hreturn : Code.IsBalanced (.line ("return " ++ language.mappingSet.typeCase type.name ++
      "\x7b" ++ argumentList plans.decode ++ "\x7d;")) := by
    rw [Code.IsBalanced, Code.bracesOf, hvalue]
    decide
  refine isBalanced_all ?_
  simp only [List.forall_mem_cons]
  refine ⟨isBalanced_generatedNote,
    isBalanced_line (.between rfl rfl hstruct), isBalanced_blank,
    isBalanced_braces (.append (.literal rfl) hnamespace) ?_, List.forall_mem_nil _⟩
  simp only [List.forall_mem_cons]
  refine ⟨isBalanced_braces ?_ (List.forall_mem_singleton.mpr (isBalanced_encodeSteps hencode)),
    isBalanced_blank, isBalanced_braces ?_ ?_, List.forall_mem_nil _⟩
  · exact .append (.append (.between rfl rfl hstruct) (braceless_encodeParameters htype))
      (.literal rfl)
  · exact .append (.append (.append htype (.literal rfl)) hstruct) (.literal rfl)
  · simp only [List.forall_mem_cons]
    exact ⟨isBalanced_decodeSteps hdecode, hreturn, List.forall_mem_nil _⟩

end CustomTypes

section Codecs

variable {language : Language} {types : TypeScope} {namespaceName service text : String}
variable {method : Method} {type : CustomType}

theorem isBraceless_of_planMethod {plan : PlannedMethod}
    (hmethod : ∀ text ∈ method.texts, Braceless text)
    (h : planMethod ⟨language.mappingSet, types, namespaceName⟩ method = .ok plan) :
    plan.IsBraceless := by
  have hmessages : ∀ text ∈ method.messages.flatMap (·.texts), Braceless text :=
    fun text hmem => hmethod text (.tail _ (List.mem_append_right _ hmem))
  rw [Method.messages, List.flatMap_cons, List.flatMap_cons, List.forall_mem_append,
    List.forall_mem_append] at hmessages
  obtain ⟨hrequest, -, hevents⟩ := hmessages
  obtain ⟨hrequestPlans, heventPlans⟩ := planMethod_eq_ok_iff.mp h
  exact {
    request := RenderScope.isBraceless_of_plans
      (fun text hmem => hrequest text (List.mem_append_right _ hmem)) hrequestPlans
    events := RenderScope.isBraceless_of_planEvents hevents heventPlans }

theorem nests_of_methodHeader (hservice : Braceless service)
    (hmethod : ∀ text ∈ method.texts, Braceless text)
    (h : methodHeader ⟨language.mappingSet, types, namespaceName⟩ service method = .ok text) :
    Nests 0 0 (bracesOf text) := by
  obtain ⟨plan, hplan, h⟩ := bind_eq_ok_iff.mp h
  rw [pure_eq_ok_iff.mp h]
  exact (isBalanced_headerCode hservice hmethod
    (isBraceless_of_planMethod hmethod hplan)).nests_render (by decide)

theorem nests_of_methodSource (hservice : Braceless service)
    (hmethod : ∀ text ∈ method.texts, Braceless text)
    (h : methodSource ⟨language.mappingSet, types, namespaceName⟩ service method = .ok text) :
    Nests 0 0 (bracesOf text) := by
  obtain ⟨plan, hplan, h⟩ := bind_eq_ok_iff.mp h
  rw [pure_eq_ok_iff.mp h]
  exact (isBalanced_sourceCode hservice (hmethod _ List.mem_cons_self)
    (isBraceless_of_planMethod hmethod hplan)).nests_render (by decide)

theorem nests_of_customHeader (hnamespace : Braceless namespaceName)
    (htype : ∀ text ∈ type.texts, Braceless text)
    (h : customHeader ⟨language.mappingSet, types, namespaceName⟩ type = .ok text) :
    Nests 0 0 (bracesOf text) := by
  obtain ⟨plan, -, h⟩ := bind_eq_ok_iff.mp h
  rw [pure_eq_ok_iff.mp h]
  exact (isBalanced_customHeaderCode hnamespace (htype _ List.mem_cons_self)).nests_render
    (by decide)

theorem nests_of_customSource (hnamespace : Braceless namespaceName)
    (htype : ∀ text ∈ type.texts, Braceless text)
    (h : customSource ⟨language.mappingSet, types, namespaceName⟩ type = .ok text) :
    Nests 0 0 (bracesOf text) := by
  obtain ⟨plans, hplans, h⟩ := bind_eq_ok_iff.mp h
  rw [pure_eq_ok_iff.mp h]
  have hfields : ∀ text ∈ type.fields.flatMap (·.texts), Braceless text :=
    fun text hmem => htype text (.tail _ (List.mem_append_right _ hmem))
  exact (isBalanced_customSourceCode hnamespace (htype _ List.mem_cons_self)
    (RenderScope.isBraceless_of_plans hfields hplans)).nests_render (by decide)

end Codecs

end WireCodecs.Cpp
