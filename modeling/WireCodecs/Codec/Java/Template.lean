import WireCodecs.Codec.Java.Body
import WireCodecs.Fingerprint.Placeholder

/-! The Java codecs: a class for each method, with the constants, the parameter classes and the
encoders and decoders of its messages and an event handler if it has events, and a class for each
custom type. -/

namespace WireCodecs.Java

/-- The annotation that carries the fingerprint. -/
def generatedNote : Code Empty :=
  .line ("@Generated(\"" ++ fingerprintPlaceholder ++ "\")")

def className (service method : String) : String :=
  Naming.capital service ++ Naming.capital method ++ "Codec"

def fileHeader (namespaceName : String) : Code Empty :=
  .all [
    .line ("package " ++ namespaceName ++ ";"),
    .blank,
    .line "import com.hazelcast.client.impl.protocol.ClientMessage;",
    .line "import com.hazelcast.client.impl.protocol.Generated;",
    .line "import com.hazelcast.client.impl.protocol.codec.builtin.*;",
    .line "import com.hazelcast.client.impl.protocol.codec.custom.*;",
    .line "import com.hazelcast.logging.Logger;",
    .blank,
    .line "import static com.hazelcast.client.impl.protocol.ClientMessage.*;",
    .line <| "import static " ++
      "com.hazelcast.client.impl.protocol.codec.builtin.FixedSizeTypesCodec.*;",
    .blank]

/-- A documentation comment, if there is anything to say in it. -/
def documentation (doc since : Option String) : Code Empty :=
  match doc, since with
  | none, none => .empty
  | _, _ =>
    .line "/**" ++
    (match doc with
      | some doc => .comment " * " (Text.trim doc)
      | none => .empty) ++
    (match since with
      | some since => .line (" * @since " ++ since)
      | none => .empty) ++
    .line " */"

/-- The fields of a plan as declared parameters. -/
def declare (planned : PlannedField) : String :=
  planned.mapping.spelling ++ " " ++ planned.parameter

def parameterList (plan : Plan) : String := Text.joinWith ", " (plan.fields.map declare)

def argumentList (plan : Plan) : String := Text.joinWith ", " plan.parameters

section Parameters

def parameterField (planned : PlannedField) : Code Empty :=
  documentation planned.field.doc planned.field.since ++
  .line ("public " ++ declare planned ++ ";")

/-- The given pieces of code with a blank line between each two. -/
def separated : List (Code Empty) → Code Empty
  | [] => .empty
  | [code] => code
  | code :: codes => code ++ .blank ++ separated codes

def parametersClass (name : String) (plan : Plan) : Code Empty :=
  .line ("@edu.umd.cs.findbugs.annotations.SuppressFBWarnings" ++
    "(\x7b\"URF_UNREAD_PUBLIC_OR_PROTECTED_FIELD\"\x7d)") ++
  .braces ("public static class " ++ name) [separated (plan.fields.map parameterField)]

end Parameters

section Messages

/-- The line that creates the initial frame of a message. -/
def newMessageFrame (lead : String) : Code Empty :=
  .line ("ClientMessage.Frame initialFrame = new ClientMessage.Frame(new byte[" ++
    frameSizeName lead ++ "], UNFRAGMENTED_MESSAGE);")

def newMessage : Code Empty :=
  .line "ClientMessage clientMessage = ClientMessage.createForEncode();"

def setMessageType (lead : String) : Code Empty :=
  .line ("encodeInt(initialFrame.content, TYPE_FIELD_OFFSET, " ++ messageTypeName lead ++ ");")

def setPartition : Code Empty :=
  .line "encodeInt(initialFrame.content, PARTITION_ID_FIELD_OFFSET, -1);"

def encodeMessage (lead : String) (plan : Plan) : List EncodeStep :=
  encodeFields lead plan (·.parameter)

def encoderBody (lead : String) (plan : Plan) : Code Empty :=
  .all ((encodeMessage lead plan).map (·.code)) ++ .line "return clientMessage;"

def requestEncoder (operation : String) (plan : Plan) : Code Empty :=
  .braces ("public static ClientMessage encodeRequest(" ++ parameterList plan ++ ")") [
    newMessage,
    .line ("clientMessage.setOperationName(\"" ++ operation ++ "\");"),
    newMessageFrame requestLead,
    setMessageType requestLead,
    setPartition,
    encoderBody requestLead plan]

def responseEncoder (plan : Plan) : Code Empty :=
  .braces ("public static ClientMessage encodeResponse(" ++ parameterList plan ++ ")") [
    newMessage,
    newMessageFrame responseLead,
    setMessageType responseLead,
    encoderBody responseLead plan]

def eventEncoder (event : PlannedEvent) : Code Empty :=
  let lead := eventLead event.label
  let plan := event.plans.encode
  .braces ("public static ClientMessage encode" ++ event.label ++ "Event(" ++
      parameterList plan ++ ")") [
    newMessage,
    newMessageFrame lead,
    .line "initialFrame.flags |= ClientMessage.IS_EVENT_FLAG;",
    setMessageType lead,
    setPartition,
    encoderBody lead plan]

/-- Decodes into the fields of the object called `target`. -/
def decodeMessage (lead target : String) (plan : Plan) : List DecodeStep :=
  decodeFields lead plan fun planned => target ++ "." ++ planned.parameter

/-- The decoder of a request or a response, called `name` with the given word for the object. -/
def messageDecoder (codecClass name target lead : String) (plan : Plan) : Code Empty :=
  let parameters := name ++ "Parameters"
  .braces ("public static " ++ codecClass ++ "." ++ parameters ++ " decode" ++ name ++
      "(ClientMessage clientMessage)") [
    .line "ClientMessage.ForwardFrameIterator iterator = clientMessage.frameIterator();",
    .line (parameters ++ " " ++ target ++ " = new " ++ parameters ++ "();"),
    .all ((decodeMessage lead target plan).map (·.code)),
    .line ("return " ++ target ++ ";")]

end Messages

section Events

/-- Decodes into local variables. -/
def decodeEvent (event : PlannedEvent) : List DecodeStep :=
  decodeFields (eventLead event.label) event.plans.decode declare

def eventCase (event : PlannedEvent) : Code Empty :=
  .braces ("if (messageType == " ++ messageTypeName (eventLead event.label) ++ ")") [
    .all ((decodeEvent event).map (·.code)),
    .line ("handle" ++ event.label ++ "Event(" ++ argumentList event.plans.decode ++ ");"),
    .line "return;"]

def eventDeclaration (event : PlannedEvent) : Code Empty :=
  .blank ++
  .line ("public abstract void handle" ++ event.label ++ "Event(" ++
    parameterList event.plans.decode ++ ");")

def eventHandler (events : List PlannedEvent) : Code Empty :=
  .braces "public abstract static class AbstractEventHandler" [
    .braces "public void handle(ClientMessage clientMessage)" [
      .line "int messageType = clientMessage.getMessageType();",
      .line "ClientMessage.ForwardFrameIterator iterator = clientMessage.frameIterator();",
      .all (events.map eventCase),
      .line <| "Logger.getLogger(super.getClass()).finest(" ++
        "\"Unknown message type received on event handler :\" + messageType);"],
    .all (events.map eventDeclaration)]

end Events

/-- A method with the plans of its messages. -/
structure PlannedMethod where
  request : Plans
  response : Plans
  events : List PlannedEvent
  deriving DecidableEq, Repr

def planMethod (scope : RenderScope) (method : Method) : Except Unmapped PlannedMethod := do
  let request ← scope.plans method.request.fields
  let response ← scope.plans method.response.fields
  let events ← scope.planEvents 0 method.events
  return ⟨request, response, events⟩

def eventConstants (event : PlannedEvent) : Code Empty :=
  let lead := eventLead event.label
  messageTypeCode lead event.id ++ offsetCode lead eventBase event.plans.encode

def methodCode (scope : RenderScope) (service : String) (method : Method)
    (plan : PlannedMethod) : Code Empty :=
  let name := className service method.name
  let operation := Naming.capital service ++ "." ++ Naming.capital method.name
  .all [
    fileHeader scope.namespaceName,
    documentation method.doc method.since,
    generatedNote,
    .braces ("public final class " ++ name) [
      messageTypeCode requestLead method.request.id,
      messageTypeCode responseLead method.response.id,
      offsetCode requestLead requestBase plan.request.encode,
      offsetCode responseLead responseBase plan.response.encode,
      .all (plan.events.map eventConstants),
      .blank,
      .braces ("private " ++ name ++ "()") [],
      .blank,
      parametersClass "RequestParameters" plan.request.decode,
      .blank,
      requestEncoder operation plan.request.encode,
      .blank,
      messageDecoder name "Request" "request" requestLead plan.request.decode,
      .blank,
      parametersClass "ResponseParameters" plan.response.decode,
      .blank,
      responseEncoder plan.response.encode,
      .blank,
      messageDecoder name "Response" "response" responseLead plan.response.decode,
      .all (plan.events.map fun event => .blank ++ eventEncoder event),
      if plan.events.isEmpty then .empty else .blank ++ eventHandler plan.events]]

/-- The getter that gives a field's value. -/
def getter (receiver : String) (planned : PlannedField) : String :=
  receiver ++ ".get" ++ Naming.capital planned.field.name ++ "()"

def customCode (scope : RenderScope) (type : CustomType)
    (plans : Plans) : Code Empty :=
  let typeName := scope.set.typeCase type.name
  let name := typeName ++ "Codec"
  let receiver := scope.set.parameter typeName
  .all [
    fileHeader scope.namespaceName,
    documentation none type.since,
    generatedNote,
    .braces ("public final class " ++ name) [
      if plans.encode.fixed.isEmpty then .empty else offsetCode "" "0" plans.encode ++ .blank,
      .braces ("private " ++ name ++ "()") [],
      .blank,
      .braces ("public static void encode(ClientMessage clientMessage, " ++ typeName ++ " " ++
          receiver ++ ")") [
        .all ((encodeCustom plans.encode (getter receiver)).map (·.code))],
      .blank,
      .braces ("public static " ++ typeName ++
          " decode(ClientMessage.ForwardFrameIterator iterator)") [
        .all ((decodeCustom plans.decode declare).map (·.code)),
        .line ("return new " ++ typeName ++ "(" ++ argumentList plans.decode ++ ");")]]]

def indent : String := "    "

/-- The codec of a method, unless one of its types is unmapped. -/
def methodCodec (scope : RenderScope) (service : String) (method : Method) :
    Except Unmapped String := do
  let plan ← planMethod scope method
  return (methodCode scope service method plan).render indent

/-- The codec of a custom type. -/
def customCodec (scope : RenderScope) (type : CustomType) :
    Except Unmapped String := do
  let plans ← scope.plans type.fields
  return (customCode scope type plans).render indent

end WireCodecs.Java
