import WireCodecs.Proofs.Codec.Cpp.Declarations
import WireCodecs.Proofs.Codec.Cpp.Order

/-! The two fragments of a C++ method fit together. The header declares an encoder, a message type
for each event and a handler for each event; the source file defines the same encoder, and its
switch has a case for each of these message types, which calls the handler of the event with one
value for each parameter. Both fragments are laid out in full from what they have in common. -/

namespace WireCodecs.Cpp

/-- What the fragments of a method have for one of its events. -/
structure EventInterface where
  message : Message
  constant : String
  handler : String
  /-- The parameters of the handler, with their types. -/
  parameters : List String
  /-- The lines that read the values of the event. -/
  reads : List (Code Empty)

/-- What the fragments of a method have in common. -/
structure Interface where
  /-- The parameters of the encoder, with their types. -/
  parameters : List String
  events : List EventInterface

section Layout

/-- The declaration of a message type, behind its number in hexadecimal. -/
def typeLines (constant : String) (id : MessageId) : List (Code Empty) := [
  .line ("//hex: " ++ id.hex),
  .line ("static constexpr int32_t " ++ constant ++ " = " ++ toString id.value ++ ";")]

namespace EventInterface

def declaration (event : EventInterface) : String :=
  "virtual void " ++ event.handler ++ "(" ++ Text.joinWith ", " event.parameters ++ ") = 0;"

/-- The names of the values that are read for the event. -/
def arguments (event : EventInterface) : List String :=
  event.message.fields.map fun field => mappingSet.parameter field.name

def call (event : EventInterface) : String :=
  event.handler ++ "(" ++ Text.joinWith ", " event.arguments ++ ");"

/-- The case of an event reads its values and calls its handler. -/
def case (event : EventInterface) : Code Empty :=
  .block ("case " ++ event.constant ++ ":") "\x7d" <|
    .all (event.reads ++ [.line event.call, .line "return;"])

end EventInterface

namespace Interface

variable (interface : Interface)

/-- The class of handlers in the header; without events there is none. -/
def handlerClass : List (Code Empty) :=
  if interface.events.isEmpty then []
  else [.blank,
    .block "class HAZELCAST_API event_handler : public impl::BaseEventHandler" "\x7d;" <| .all <|
      [.line "public:", .line "virtual ~event_handler() = default;", .blank,
        .line "void handle(ClientMessage &msg);"] ++
      interface.events.flatMap fun event => [.blank, .line event.declaration]]

/-- The struct of a method, where the expression gives the size of the request's initial frame. -/
def struct (name frameSize : String) (method : Method) : Code Empty :=
  .block ("struct HAZELCAST_API " ++ name) "\x7d;" <| .all <|
    typeLines "REQUEST_MESSAGE_TYPE" method.request.id ++
    typeLines "RESPONSE_MESSAGE_TYPE" method.response.id ++
    (interface.events.flatMap fun event => typeLines event.constant event.message.id) ++
    [.line ("static constexpr size_t REQUEST_INITIAL_FRAME_SIZE = " ++ frameSize ++ ";"), .blank,
      .line ("static ClientMessage encode_request(" ++ Text.joinWith ", " interface.parameters ++
        ");")] ++
    interface.handlerClass

/-- The fragment of the header. -/
def header (name frameSize : String) (method : Method) : Code Empty :=
  .all [generatedNote, documentation method.doc, interface.struct name frameSize method, .blank]

/-- The definition of the handler in the source file; without events there is none. -/
def handler (name : String) : List (Code Empty) :=
  if interface.events.isEmpty then []
  else [.block ("void " ++ name ++ "::event_handler::handle(ClientMessage &msg)") "\x7d" <| .all [
      .line "auto message_type = msg.get_message_type();",
      .block "switch (message_type)" "\x7d" <| .all <|
        interface.events.map EventInterface.case ++ [
        .line "default:",
        .indented <| .line <| "HZ_LOG(*get_logger(), warning, boost::str(boost::format(" ++
          "\"[event_handler::handle] Unknown message type (%1%) received on event handler.\"" ++
          ") % message_type));"]],
    .blank]

/-- The fragment of the source file, with this code in the encoder. -/
def source (name : String) (encoder : Code Empty) : Code Empty :=
  .all <|
    [.block ("ClientMessage " ++ name ++ "::encode_request(" ++
        Text.joinWith ", " interface.parameters ++ ")") "\x7d" encoder, .blank] ++
    interface.handler name

end Interface

end Layout

/-- Whether a parameter takes the values of a field: it is the name of the field behind its type, a
reference to that type or a pointer. -/
def Takes (types : TypeScope) (field : Field) (parameter : String) : Prop :=
  ∃ typeName, valueType types.customTypes field.type = .ok typeName ∧
    ∃ form ∈ [typeName, "const " ++ typeName ++ " &", "const " ++ typeName ++ " *"],
      ∃ gap ∈ ["", " "], parameter = form ++ gap ++ mappingSet.parameter field.name

/-- The message type and the handler of an event have its label in their names. The handler has a
parameter for each field of the message, and the fields are read in wire order. -/
structure EventInterface.Of (types : TypeScope) (message : Message) (label : String)
    (event : EventInterface) : Prop where
  message : event.message = message
  constant : event.constant = "EVENT_" ++ Naming.upperSnake label ++ "_MESSAGE_TYPE"
  handler : event.handler = "handle_" ++ Naming.snake label
  parameters : List.Forall₂ (Takes types) event.message.fields event.parameters
  reads : List.Forall₂ (GetsInto types) (types.table.wireOrder event.message.fields) event.reads

/-- The encoder has a parameter for each field of the request, and there is an event for each of the
method's. -/
structure Interface.Of (types : TypeScope) (method : Method) (interface : Interface) : Prop where
  parameters : List.Forall₂ (Takes types) method.request.fields interface.parameters
  events : List.Forall₂ (fun entry event =>
      event.Of types entry.1 (RenderScope.eventLabel entry.2 entry.1))
    method.events.zipIdx interface.events

section Parameters

variable {types : TypeScope} {namespaceName : String}

theorem declare_eq (type name : String) :
    ∃ gap ∈ ["", " "], declare type name = type ++ gap ++ name := by
  unfold declare
  split
  · exact ⟨"", by simp, by simp⟩
  · exact ⟨"", by simp, by simp⟩
  · exact ⟨" ", by simp, rfl⟩

theorem takes_parameter {encode decode : PlannedField} (hfield : decode.field = encode.field)
    (hname : encode.parameter = mappingSet.parameter encode.field.name)
    (hencode : mapping .encode types encode.field.type = .ok encode.mapping)
    (hdecode : mapping .decode types decode.field.type = .ok decode.mapping) :
    Takes types encode.field (parameter encode decode) := by
  have htype := spelling_of_decode hdecode
  rw [hfield] at htype
  have hspelling : encode.mapping.spelling ∈
      [decode.mapping.spelling, "const " ++ decode.mapping.spelling ++ " &"] := by
    rw [spelling_of_encode hencode htype]
    cases place types.table encode.field.type <;> simp [parameterType]
  refine ⟨decode.mapping.spelling, htype, ?_⟩
  unfold parameter
  rw [hname]
  split
  · exact ⟨_, by simp, declare_eq _ _⟩
  · exact ⟨_, List.mem_append_left [_] hspelling, declare_eq _ _⟩

/-- A list of parameters has one for each field, in the order of the declaration. -/
theorem takes_of_plans {fields : List Field} {plans : Plans}
    (h : RenderScope.plans ⟨mappingSet, types, namespaceName⟩ fields = .ok plans) :
    List.Forall₂ (Takes types) fields
      (List.zipWith parameter plans.encode.fields plans.decode.fields) := by
  obtain ⟨hencode, hdecode⟩ := RenderScope.plans_eq_ok_iff.mp h
  have hfields : plans.decode.fields.map (·.field) = plans.encode.fields.map (·.field) :=
    (RenderScope.fields_of_plan hdecode).trans (RenderScope.fields_of_plan hencode).symm
  have hlength : plans.decode.fields.length = plans.encode.fields.length := by
    simpa using congrArg List.length hfields
  rw [← RenderScope.fields_of_plan hencode, List.forall₂_map_left_iff, List.forall₂_iff_get]
  refine ⟨by simp [hlength], fun i hencoded _ => ?_⟩
  have hdecoded : i < plans.decode.fields.length := hlength ▸ hencoded
  have hfield : plans.decode.fields[i].field = plans.encode.fields[i].field := by
    simpa [hencoded, hdecoded] using congrArg (·[i]?) hfields
  rw [List.get_eq_getElem, List.get_eq_getElem, List.getElem_zipWith]
  exact takes_parameter hfield (RenderScope.parameter_of_plan hencode (List.getElem_mem hencoded))
    (RenderScope.mapping_of_plan hencode (List.getElem_mem hencoded))
    (RenderScope.mapping_of_plan hdecode (List.getElem_mem hdecoded))

end Parameters

section Fragments

variable {types : TypeScope} {namespaceName service : String} {method : Method}
  {plan : PlannedMethod}

/-- A message and its index, with the event that is planned for them. -/
def EventInterface.ofPlanned (entry : (Message × Nat) × PlannedEvent) : EventInterface where
  message := entry.1.1
  constant := eventConstant entry.2
  handler := handlerName entry.2
  parameters := List.zipWith parameter entry.2.plans.encode.fields entry.2.plans.decode.fields
  reads := (decodeFields entry.2.plans.decode).map (·.code)

def Interface.ofPlanned (plans : Plans) (entries : List ((Message × Nat) × PlannedEvent)) :
    Interface where
  parameters := List.zipWith parameter plans.encode.fields plans.decode.fields
  events := entries.map .ofPlanned

variable {entries : List ((Message × Nat) × PlannedEvent)}

theorem EventInterface.of_ofPlanned {entry : (Message × Nat) × PlannedEvent}
    (h : RenderScope.PlansEvent ⟨mappingSet, types, namespaceName⟩ entry.1 entry.2) :
    (ofPlanned entry).Of types entry.1.1 (RenderScope.eventLabel entry.1.2 entry.1.1) where
  message := rfl
  constant := by rw [← h.label, ofPlanned, eventConstant]
  handler := by rw [← h.label, ofPlanned, handlerName]
  parameters := takes_of_plans h.plans
  reads := getsInto_decodeFields (RenderScope.plans_eq_ok_iff.mp h.plans).2

theorem Interface.of_ofPlanned
    (hrequest : RenderScope.plans ⟨mappingSet, types, namespaceName⟩ method.request.fields =
      .ok plan.request)
    (hmessages : entries.map (·.1) = method.events.zipIdx)
    (hentries : ∀ entry ∈ entries,
      RenderScope.PlansEvent ⟨mappingSet, types, namespaceName⟩ entry.1 entry.2) :
    (ofPlanned plan.request entries).Of types method where
  parameters := takes_of_plans hrequest
  events := by
    rw [← hmessages, ofPlanned, List.forall₂_map_left_iff, List.forall₂_map_right_iff,
      List.forall₂_same]
    exact fun entry hentry => EventInterface.of_ofPlanned (hentries entry hentry)

section Traces

variable (service : String) (method : Method) (request : Plans) (depth : Nat)

theorem trace_handlerClass :
    (if (entries.map (·.2)).isEmpty then .empty
      else .blank ++ handlerClass (entries.map (·.2)) : Code Empty).trace depth =
      (Code.all (Interface.ofPlanned request entries).handlerClass).trace depth := by
  cases entries with
  | nil => rfl
  | cons entry entries =>
    simp [handlerClass, definition, Code.trace, Interface.handlerClass, Interface.ofPlanned,
      handlerDeclaration, List.flatMap_map, List.flatMap_assoc, EventInterface.declaration,
      EventInterface.ofPlanned, parameterList]

theorem trace_messageTypeCode (constant : String) (id : MessageId) :
    (messageTypeCode constant id).trace depth =
      (typeLines constant id).flatMap (·.trace depth) := by
  simp only [messageTypeCode, typeLines, Code.trace_append, List.flatMap_cons, List.flatMap_nil,
    List.append_nil]

theorem trace_headerCode (hids : ∀ entry ∈ entries, entry.2.id = entry.1.1.id) :
    (headerCode service method ⟨request, entries.map (·.2)⟩).trace depth =
      ((Interface.ofPlanned request entries).header (structName service method.name)
        (requestFrameSize request.encode) method).trace depth := by
  have hevents : (entries.flatMap fun entry =>
        (typeLines (eventConstant entry.2) entry.2.id).flatMap (·.trace (depth + 1))) =
      (Interface.ofPlanned request entries).events.flatMap fun event =>
        (typeLines event.constant event.message.id).flatMap (·.trace (depth + 1)) := by
    rw [Interface.ofPlanned, List.flatMap_map]
    refine List.flatMap_congr fun entry hentry => ?_
    rw [hids entry hentry]
    rfl
  have hclass := @trace_handlerClass entries request (depth + 1)
  have hparameters : parameterList request =
      Text.joinWith ", " (Interface.ofPlanned request entries).parameters := rfl
  have hsize : "static constexpr size_t REQUEST_INITIAL_FRAME_SIZE = " ++
        "ClientMessage::REQUEST_HEADER_LEN + " ++ toString request.encode.fixedSize ++ ";" =
      "static constexpr size_t REQUEST_INITIAL_FRAME_SIZE = " ++ requestFrameSize request.encode ++
        ";" := by
    unfold requestFrameSize
    rw [← String.append_assoc]
  simp only [headerCode, Interface.header, Interface.struct, definition, Code.trace_all,
    List.flatMap_cons, List.flatMap_nil, List.flatMap_append, Code.trace, hclass, hparameters,
    List.flatMap_map, List.map_map, List.flatMap_assoc, Function.comp_def, hevents, hsize,
    trace_messageTypeCode, List.append_assoc, List.append_nil]

theorem trace_eventDispatch (name : String)
    (hdecode : ∀ entry ∈ entries, entry.2.plans.decode.parameters =
      entry.1.1.fields.map fun field => mappingSet.parameter field.name) :
    (if (entries.map (·.2)).isEmpty then .empty
      else eventDispatch name (entries.map (·.2)) ++ .blank : Code Empty).trace depth =
      (Code.all ((Interface.ofPlanned request entries).handler name)).trace depth := by
  have hcases (depth : Nat) : (entries.flatMap fun entry => (eventCase entry.2).trace depth) =
      (Interface.ofPlanned request entries).events.flatMap fun event => event.case.trace depth := by
    rw [Interface.ofPlanned, List.flatMap_map]
    refine List.flatMap_congr fun entry hentry => ?_
    have hcall : handlerName entry.2 ++ "(" ++ argumentList entry.2.plans.decode ++ ");" =
        (EventInterface.ofPlanned entry).call := by
      rw [argumentList, hdecode entry hentry]
      rfl
    have hbody := Code.trace_all_nested []
      ((decodeFields entry.2.plans.decode).map (·.code))
      [.line (EventInterface.ofPlanned entry).call, .line "return;"] (depth + 1)
    rw [eventCase, Code.braces, hcall, Code.trace, EventInterface.case, Code.trace]
    exact congrArg (_ ++ · ++ _) hbody
  have hempty : (Interface.ofPlanned request entries).events.isEmpty =
      (entries.map (·.2)).isEmpty := by
    rw [Interface.ofPlanned, List.isEmpty_map, List.isEmpty_map]
  rw [Interface.handler, hempty]
  split
  · rfl
  · simp only [eventDispatch, Code.braces, Code.trace_all, Code.trace_append, List.flatMap_cons,
      List.flatMap_nil, Code.trace, List.flatMap_append, List.flatMap_map, List.map_map,
      Function.comp_def, hcases, List.append_nil, List.append_assoc]

theorem trace_sourceCode
    (hdecode : ∀ entry ∈ entries, entry.2.plans.decode.parameters =
      entry.1.1.fields.map fun field => mappingSet.parameter field.name) :
    (sourceCode service method ⟨request, entries.map (·.2)⟩).trace depth =
      ((Interface.ofPlanned request entries).source (structName service method.name)
        (.all (requestOpening service method ++ (encodeRequest request.encode).map (·.code) ++
          [.line "return msg;"]))).trace depth := by
  have hhandler :=
    @trace_eventDispatch entries request depth (structName service method.name) hdecode
  have hparameters : parameterList request =
      Text.joinWith ", " (Interface.ofPlanned request entries).parameters := rfl
  simp only [sourceCode, Interface.source, Code.trace_all, List.flatMap_cons, List.flatMap_nil,
    List.flatMap_append, hhandler, trace_requestEncoder, Code.braces, Code.trace, hparameters,
    List.append_nil, List.append_assoc]

end Traces

/-- Both fragments are rendered from one plan. -/
theorem exists_plan_of_isOk {scope : RenderScope}
    (h : (methodHeader scope service method).isOk ∨ (methodSource scope service method).isOk) :
    ∃ plan, planMethod scope method = .ok plan ∧
      methodHeader scope service method = .ok ((headerCode service method plan).render indent) ∧
      methodSource scope service method = .ok ((sourceCode service method plan).render indent) := by
  cases hplan : planMethod scope method with
  | error unmapped => simp [methodHeader, methodSource, hplan, bind, Except.bind, Except.isOk,
      Except.toBool] at h
  | ok plan => exact ⟨plan, rfl, bind_eq_ok_iff.mpr ⟨plan, hplan, rfl⟩,
      bind_eq_ok_iff.mpr ⟨plan, hplan, rfl⟩⟩

end Fragments

/-- The header and the source file of a method are laid out from one interface, which has the
parameters of the encoder, one for each field of the request, and the message types and handlers of
the events. So what the header declares is what the source file defines and uses. -/
theorem fragments_fit {types : TypeScope} {namespaceName service : String} {method : Method}
    (h : (methodHeader ⟨mappingSet, types, namespaceName⟩ service method).isOk ∨
      (methodSource ⟨mappingSet, types, namespaceName⟩ service method).isOk) :
    let scope : RenderScope := ⟨mappingSet, types, namespaceName⟩
    let name := structName service method.name
    ∃ (plan : PlannedMethod) (interface : Interface), planMethod scope method = .ok plan ∧
      interface.Of types method ∧
      let sets := (encodeRequest plan.request.encode).map (·.code)
      let encoder : Code Empty :=
        .all (requestOpening service method ++ sets ++ [.line "return msg;"])
      methodHeader scope service method = .ok
        ((interface.header name (requestFrameSize plan.request.encode) method).render indent) ∧
      methodSource scope service method = .ok ((interface.source name encoder).render indent) := by
  intro scope name
  obtain ⟨plan, hplan, hheader, hsource⟩ := exists_plan_of_isOk h
  obtain ⟨hrequest, hevents⟩ := planMethod_eq_ok_iff.mp hplan
  obtain ⟨entries, hmessages, hplanned, hentries⟩ :=
    RenderScope.exists_entries_of_planEvents hevents
  refine ⟨plan, .ofPlanned plan.request entries, hplan,
    Interface.of_ofPlanned hrequest hmessages hentries, ?_⟩
  obtain ⟨request, events⟩ := plan
  obtain rfl := hplanned
  rw [hheader, hsource]
  refine ⟨congrArg Except.ok (Code.render_eq_of_trace ?header),
    congrArg Except.ok (Code.render_eq_of_trace ?source)⟩
  case header =>
    exact trace_headerCode service method request 0 fun entry hentry => (hentries entry hentry).id
  case source =>
    refine trace_sourceCode service method request 0 fun entry hentry => ?_
    exact RenderScope.parameters_of_plan
      (RenderScope.plans_eq_ok_iff.mp (hentries entry hentry).plans).2

/-- A method with a named and an unnamed event. -/
def watch : Method where
  id := 1
  name := "watch"
  since := none
  doc := none
  request := ⟨.derive 1 1 .request, none, [⟨"key", .primitive "String", true, none, none⟩,
    ⟨"count", .primitive "Int32", false, none, none⟩]⟩
  response := ⟨.derive 1 1 .response, none, []⟩
  events := [⟨.derive 1 1 (.event 0), some "entryAdded", [⟨"value", .primitive "String", true, none,
    none⟩]⟩, ⟨.derive 1 1 (.event 1), none, []⟩]

theorem fragments_fit_watch :
    let scope : RenderScope := ⟨mappingSet, ⟨.standard, []⟩, "codec"⟩
    ∃ (plan : PlannedMethod) (interface : Interface), planMethod scope watch = .ok plan ∧
      interface.Of ⟨.standard, []⟩ watch ∧
      let sets := (encodeRequest plan.request.encode).map (·.code)
      let encoder : Code Empty := .all (requestOpening "map" watch ++ sets ++ [.line "return msg;"])
      methodHeader scope "map" watch = .ok ((interface.header "map_watch_codec"
        (requestFrameSize plan.request.encode) watch).render indent) ∧
      methodSource scope "map" watch = .ok
        ((interface.source "map_watch_codec" encoder).render indent) := by
  intro scope
  have hname : structName "map" watch.name = "map_watch_codec" := by decide
  rw [← hname]
  exact fragments_fit (.inl (by decide))

end WireCodecs.Cpp
