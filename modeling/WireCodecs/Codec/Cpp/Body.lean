import WireCodecs.Code
import WireCodecs.Codec.Plan

/-! The bodies of C++ encoders and decoders as lists of steps. Fixed fields come first, then the
framed ones. The last framed field of a request closes the message. -/

namespace WireCodecs.Cpp

inductive EncodeStep where
  | beginFrame
  /-- Sets a value; `last` closes the message, `nullable` lets the value be absent. -/
  | set (planned : PlannedField) (value : String) (last nullable : Bool)
  | endFrame
  deriving DecidableEq, Repr

def EncodeStep.code : EncodeStep → Code Empty
  | beginFrame => .line "msg.add_begin_frame();"
  | set planned value last nullable =>
    let args := if last then [value, "true"] else [value]
    if nullable then .line ("msg.set_nullable(" ++ Text.joinWith ", " args ++ ");")
    else .line (planned.op.invoke args ++ ";")
  | endFrame => .line "msg.add_end_frame();"

/-- Sets the framed fields of a request. -/
def setFramed : List PlannedField → List EncodeStep
  | [] => []
  | [planned] => [.set planned planned.parameter true planned.nullable]
  | planned :: rest => .set planned planned.parameter false planned.nullable :: setFramed rest

def encodeRequest (plan : Plan) : List EncodeStep :=
  plan.fixed.map (fun planned => .set planned planned.parameter false false) ++
  setFramed plan.framed

/-- Sets the members of the custom type's value called `receiver`. -/
def encodeCustom (receiver : String) (plan : Plan) : List EncodeStep :=
  .beginFrame ::
  (plan.fixed ++ plan.framed).map (fun planned =>
    .set planned (receiver ++ "." ++ planned.parameter) false false) ++
  [.endFrame]

inductive DecodeStep where
  | beginFrame
  | get (planned : PlannedField) (nullable : Bool)
  | endFrame
  deriving DecidableEq, Repr

def DecodeStep.code : DecodeStep → Code Empty
  | beginFrame => .line "// begin frame" ++ .line "msg.skip_frame();"
  | get planned nullable =>
    .line <| "auto " ++ planned.parameter ++ " = " ++
      (if nullable then "msg.get_nullable<" ++ planned.mapping.spelling ++ ">()"
        else planned.op.invoke []) ++ ";"
  | endFrame => .line "msg.fast_forward_to_end_frame();"

def decodeFields (plan : Plan) : List DecodeStep :=
  plan.fixed.map (.get · false) ++ plan.framed.map fun planned => .get planned planned.nullable

def decodeCustom (plan : Plan) : List DecodeStep :=
  .beginFrame :: decodeFields plan ++ [.endFrame]

end WireCodecs.Cpp
