import WireCodecs.Codec.Cpp.Body
import WireCodecs.Fingerprint.Placeholder

/-! The C++ codecs. A method's codec is two fragments, declarations for the header and definitions
for the source file that all methods share. A custom type has a header and a source file of its own.
Responses are not decoded in generated code, so a method needs mappings for its request and events
only. -/

namespace WireCodecs.Cpp

def indent : String := "    "

def generatedNote : Code Empty :=
  .line ("// Generated(\"" ++ fingerprintPlaceholder ++ "\")")

def structName (service method : String) : String :=
  Naming.snake service ++ "_" ++ Naming.snake method ++ "_codec"

/-- A reference or pointer type stands right before the name, any other type before a space. -/
def declare (typeName name : String) : String :=
  match typeName.toList.getLast? with
  | some '&' | some '*' => typeName ++ name
  | _ => typeName ++ " " ++ name

/-- A parameter of an encoder or handler; nullable framed values are passed by pointer. -/
def parameter (encode decode : PlannedField) : String :=
  if encode.nullable && !encode.isFixed then
    declare ("const " ++ decode.mapping.spelling ++ " *") encode.parameter
  else declare encode.mapping.spelling encode.parameter

def parameterList (plans : Plans) : String :=
  Text.joinWith ", " (List.zipWith parameter plans.encode.fields plans.decode.fields)

def argumentList (plan : Plan) : String := Text.joinWith ", " plan.parameters

def documentation : Option String → Code Empty
  | some doc => .line "/**" ++ .comment " * " (Text.trim doc) ++ .line " */"
  | none => .empty

/-- A block that ends like a type definition. -/
def definition (header : String) (body : List (Code Empty)) : Code Empty :=
  .block header "\x7d;" (.all body)

section Methods

/-- A method with the plans of the messages that its codec needs. -/
structure PlannedMethod where
  request : Plans
  events : List PlannedEvent
  deriving DecidableEq, Repr

def planMethod (scope : RenderScope) (method : Method) : Except Unmapped PlannedMethod := do
  let request ← scope.plans method.request.fields
  let events ← scope.planEvents 0 method.events
  return ⟨request, events⟩

def messageTypeCode (constant : String) (id : MessageId) : Code Empty :=
  .line ("//hex: " ++ id.hex) ++
  .line ("static constexpr int32_t " ++ constant ++ " = " ++ toString id.value ++ ";")

def eventConstant (event : PlannedEvent) : String :=
  "EVENT_" ++ Naming.upperSnake event.label ++ "_MESSAGE_TYPE"

def handlerName (event : PlannedEvent) : String := "handle_" ++ Naming.snake event.label

def handlerDeclaration (event : PlannedEvent) : Code Empty :=
  .blank ++
  .line ("virtual void " ++ handlerName event ++ "(" ++ parameterList event.plans ++ ") = 0;")

def handlerClass (events : List PlannedEvent) : Code Empty :=
  definition "class HAZELCAST_API event_handler : public impl::BaseEventHandler" [
    .line "public:",
    .line "virtual ~event_handler() = default;",
    .blank,
    .line "void handle(ClientMessage &msg);",
    .all (events.map handlerDeclaration)]

def headerCode (service : String) (method : Method) (plan : PlannedMethod) :
    Code Empty :=
  .all [
    generatedNote,
    documentation method.doc,
    definition ("struct HAZELCAST_API " ++ structName service method.name) [
      messageTypeCode "REQUEST_MESSAGE_TYPE" method.request.id,
      messageTypeCode "RESPONSE_MESSAGE_TYPE" method.response.id,
      .all (plan.events.map fun event => messageTypeCode (eventConstant event) event.id),
      .line ("static constexpr size_t REQUEST_INITIAL_FRAME_SIZE = " ++
        "ClientMessage::REQUEST_HEADER_LEN + " ++ toString plan.request.encode.fixedSize ++ ";"),
      .blank,
      .line ("static ClientMessage encode_request(" ++ parameterList plan.request ++ ");"),
      if plan.events.isEmpty then .empty else .blank ++ handlerClass plan.events],
    .blank]

def requestEncoder (name service : String) (method : Method) (plans : Plans) : Code Empty :=
  .braces ("ClientMessage " ++ name ++ "::encode_request(" ++ parameterList plans ++ ")") [
    .line "ClientMessage msg(REQUEST_INITIAL_FRAME_SIZE);",
    .line "msg.set_retryable(false);",
    .line ("msg.set_operation_name(\"" ++ service ++ "." ++ method.name ++ "\");"),
    .blank,
    .line ("//hex: " ++ method.request.id.hex),
    .line "msg.set_message_type(REQUEST_MESSAGE_TYPE);",
    .line "msg.set_partition_id(-1);",
    .blank,
    .all ((encodeRequest plans.encode).map (·.code)),
    .line "return msg;"]

def eventCase (event : PlannedEvent) : Code Empty :=
  .braces ("case " ++ eventConstant event ++ ":") [
    .all ((decodeFields event.plans.decode).map (·.code)),
    .line (handlerName event ++ "(" ++ argumentList event.plans.decode ++ ");"),
    .line "return;"]

def eventDispatch (name : String) (events : List PlannedEvent) : Code Empty :=
  .braces ("void " ++ name ++ "::event_handler::handle(ClientMessage &msg)") [
    .line "auto message_type = msg.get_message_type();",
    .braces "switch (message_type)" [
      .all (events.map eventCase),
      .line "default:",
      .indented <| .line <| "HZ_LOG(*get_logger(), warning, boost::str(boost::format(" ++
        "\"[event_handler::handle] Unknown message type (%1%) received on event handler.\"" ++
        ") % message_type));"]]

def sourceCode (service : String) (method : Method) (plan : PlannedMethod) : Code Empty :=
  let name := structName service method.name
  .all [
    requestEncoder name service method plan.request,
    .blank,
    if plan.events.isEmpty then .empty else eventDispatch name plan.events ++ .blank]

/-- The declarations of a method. -/
def methodHeader (scope : RenderScope) (service : String) (method : Method) :
    Except Unmapped String := do
  let plan ← planMethod scope method
  return (headerCode service method plan).render indent

/-- The definitions of a method. -/
def methodSource (scope : RenderScope) (service : String) (method : Method) :
    Except Unmapped String := do
  let plan ← planMethod scope method
  return (sourceCode service method plan).render indent

end Methods

section CustomTypes

/-- The struct of a custom type's codec, which names its files too. -/
def customStructName (name : String) : String := Text.lowercase name ++ "_codec"

def guard (typeName : String) : String := Naming.upperSnake typeName ++ "_CODEC_H"

/-- The parameters of a custom type's encoder. -/
def encodeParameters (scope : RenderScope) (typeName : String) : String :=
  "ClientMessage &msg, const " ++ typeName ++ " &" ++ scope.set.parameter typeName

def customHeaderCode (scope : RenderScope) (type : CustomType) :
    Code Empty :=
  let typeName := scope.set.typeCase type.name
  .all [
    generatedNote,
    .line ("#ifndef " ++ guard typeName),
    .line ("#define " ++ guard typeName),
    .blank,
    .line "#include \"hazelcast/client/protocol/ClientMessage.h\"",
    .blank,
    .braces ("namespace " ++ scope.namespaceName) [
      definition ("struct HAZELCAST_API " ++ customStructName type.name) [
        .line ("static void encode(" ++ encodeParameters scope typeName ++ ");"),
        .blank,
        .line ("static " ++ typeName ++ " decode(ClientMessage &msg);")]],
    .blank,
    .line ("#endif // " ++ guard typeName)]

def customSourceCode (scope : RenderScope) (type : CustomType)
    (plans : Plans) : Code Empty :=
  let typeName := scope.set.typeCase type.name
  let name := customStructName type.name
  .all [
    generatedNote,
    .line ("#include \"" ++ name ++ ".h\""),
    .blank,
    .braces ("namespace " ++ scope.namespaceName) [
      .braces ("void " ++ name ++ "::encode(" ++ encodeParameters scope typeName ++ ")") [
        .all ((encodeCustom (scope.set.parameter typeName) plans.encode).map (·.code))],
      .blank,
      .braces (typeName ++ " " ++ name ++ "::decode(ClientMessage &msg)") [
        .all ((decodeCustom plans.decode).map (·.code)),
        .line ("return " ++ typeName ++ "\x7b" ++ argumentList plans.decode ++ "\x7d;")]]]

/-- The header of a custom type. -/
def customHeader (scope : RenderScope) (type : CustomType) :
    Except Unmapped String := do
  let _ ← scope.plan .encode type.fields
  return (customHeaderCode scope type).render indent

/-- The source file of a custom type. -/
def customSource (scope : RenderScope) (type : CustomType) :
    Except Unmapped String := do
  let plans ← scope.plans type.fields
  return (customSourceCode scope type plans).render indent

end CustomTypes

end WireCodecs.Cpp
