import WireCodecs.Code
import WireCodecs.Codec.Plan

/-! The constants of a Java codec class: message types, and the offsets of the fixed fields. The
offsets form a chain. Each constant is its predecessor plus the size of the predecessor's field, the
first one starts at a given base, and the last one is the size of the initial frame. -/

namespace WireCodecs.Java

/-- A named constant and the expression that defines it. -/
structure Constant where
  name : String
  definition : String
  deriving DecidableEq, Repr

/-- Constants start with a lead that says which message they belong to. -/
def offsetName (lead : String) (field : Field) : String :=
  lead ++ Naming.upperSnake field.name ++ "_FIELD_OFFSET"

def frameSizeName (lead : String) : String := lead ++ "INITIAL_FRAME_SIZE"

/-- The offsets of `fields` and the frame size, where the first constant is defined as `start`. -/
def offsetChain (lead : String) (start : String) : List PlannedField → List Constant
  | [] => [⟨frameSizeName lead, start⟩]
  | planned :: rest =>
    let name := offsetName lead planned.field
    ⟨name, start⟩ :: offsetChain lead (name ++ " + " ++ toString planned.size) rest

def offsets (lead base : String) (plan : Plan) : List Constant :=
  offsetChain lead base plan.fixed

def requestBase : String := "PARTITION_ID_FIELD_OFFSET + INT_SIZE_IN_BYTES"

def responseBase : String := "RESPONSE_BACKUP_ACKS_FIELD_OFFSET + BYTE_SIZE_IN_BYTES"

def eventBase : String := "PARTITION_ID_FIELD_OFFSET + INT_SIZE_IN_BYTES"

def requestLead : String := "REQUEST_"

def responseLead : String := "RESPONSE_"

/-- The lead of the constants of an event. -/
def eventLead (label : String) : String := "EVENT_" ++ Naming.upperSnake label ++ "_"

def messageTypeName (lead : String) : String := lead ++ "MESSAGE_TYPE"

def Constant.code (constant : Constant) : Code Empty :=
  .line ("private static final int " ++ constant.name ++ " = " ++ constant.definition ++ ";")

def offsetCode (lead base : String) (plan : Plan) : Code Empty :=
  .all ((offsets lead base plan).map (·.code))

def messageTypeCode (lead : String) (id : MessageId) : Code Empty :=
  .line ("//hex: " ++ id.hex) ++
  .line ("public static final int " ++ messageTypeName lead ++ " = " ++ toString id.value ++ ";")

end WireCodecs.Java
