import WireCodecs.Codec.Java.Constants

/-! The bodies of Java encoders and decoders as lists of steps. A step of an encoder appends a frame
or fills the initial one, a step of a decoder consumes a frame or reads from the initial one; `code`
gives the lines of each. -/

namespace WireCodecs.Java

/-- An enumeration with a name travels as the id of its value. -/
def isNamedEnum (field : Field) : Bool :=
  match field.type with
  | .enum _ (some _) => true
  | _ => false

inductive EncodeStep where
  | beginFrame
  | newInitialFrame
  /-- Writes a value into the initial frame at an offset. -/
  | fixed (planned : PlannedField) (offset value : String)
  | initialFrame
  /-- Appends the frames of a value; with `nullable`, a null frame where the value is null. -/
  | framed (planned : PlannedField) (value : String) (nullable : Bool)
  | endFrame
  deriving DecidableEq, Repr

namespace EncodeStep

/-- What is written for a value. -/
def wireValue (field : Field) (value : String) : String :=
  if isNamedEnum field then value ++ ".getId()" else value

def code : EncodeStep → Code Empty
  | beginFrame => .line "clientMessage.add(BEGIN_FRAME.copy());" ++ .blank
  | newInitialFrame =>
    .line <| "ClientMessage.Frame initialFrame = " ++
      "new ClientMessage.Frame(new byte[INITIAL_FRAME_SIZE]);"
  | fixed planned offset value =>
    .line <| planned.op.invoke
      ["initialFrame.content", offset, wireValue planned.field value] ++ ";"
  | initialFrame => .line "clientMessage.add(initialFrame);"
  | framed planned value nullable =>
    let call := planned.op.invoke ["clientMessage", value] ++ ";"
    if nullable then
      .line ("if (" ++ value ++ " == null) \x7b") ++
      .line "    clientMessage.add(NULL_FRAME.copy());" ++
      .line "\x7d else \x7b" ++
      .line ("    " ++ call) ++
      .line "\x7d"
    else .line call
  | endFrame => .blank ++ .line "clientMessage.add(END_FRAME.copy());"

end EncodeStep

/-- Writes the fixed part, adds it as the initial frame, and adds the framed fields. -/
def encodeFields (lead : String) (plan : Plan) (value : PlannedField → String) :
    List EncodeStep :=
  plan.fixed.map (fun planned => .fixed planned (offsetName lead planned.field) (value planned)) ++
  .initialFrame ::
  plan.framed.map fun planned => .framed planned (value planned) planned.nullable

/-- The encoder of a custom type. There is no initial frame if no field is fixed. -/
def encodeCustom (plan : Plan) (value : PlannedField → String) : List EncodeStep :=
  .beginFrame ::
  (if plan.fixed.isEmpty then
    plan.framed.map fun planned => .framed planned (value planned) false
  else .newInitialFrame :: encodeFields "" plan value) ++
  [.endFrame]

inductive DecodeStep where
  | beginFrame
  /-- The initial frame of a message without fixed fields. -/
  | emptyInitialFrame
  | initialFrame
  /-- Reads a value at an offset of the initial frame. -/
  | fixed (planned : PlannedField) (offset target : String)
  /-- Reads a value from its frames; with `nullable`, null from a null frame. -/
  | framed (planned : PlannedField) (target : String) (nullable : Bool)
  | endFrame
  deriving DecidableEq, Repr

namespace DecodeStep

/-- The value behind what is read. -/
def fromWire (planned : PlannedField) (read : String) : String :=
  if isNamedEnum planned.field then planned.mapping.spelling ++ ".getById(" ++ read ++ ")"
  else read

def code : DecodeStep → Code Empty
  | beginFrame => .line "// begin frame" ++ .line "iterator.next();" ++ .blank
  | emptyInitialFrame => .line "//empty initial frame" ++ .line "iterator.next();"
  | initialFrame => .line "ClientMessage.Frame initialFrame = iterator.next();"
  | fixed planned offset target =>
    .line <| target ++ " = " ++
      fromWire planned (planned.op.invoke ["initialFrame.content", offset]) ++ ";"
  | framed planned target nullable =>
    .line <| target ++ " = " ++
      (if nullable then "CodecUtil.nextFrameIsNullEndFrame(iterator) ? null : " else "") ++
      planned.op.invoke ["iterator"] ++ ";"
  | endFrame => .blank ++ .line "fastForwardToEndFrame(iterator);" ++ .blank

end DecodeStep

/-- Reads the fields in the order in which they are written. -/
def decodeFields (lead : String) (plan : Plan) (target : PlannedField → String) :
    List DecodeStep :=
  (if plan.fixed.isEmpty then .emptyInitialFrame else .initialFrame) ::
  plan.fixed.map (fun planned => .fixed planned (offsetName lead planned.field) (target planned)) ++
  plan.framed.map fun planned => .framed planned (target planned) planned.nullable

def decodeCustom (plan : Plan) (target : PlannedField → String) : List DecodeStep :=
  .beginFrame ::
  (if plan.fixed.isEmpty then
    plan.framed.map fun planned => .framed planned (target planned) false
  else decodeFields "" plan target) ++
  [.endFrame]

end WireCodecs.Java
