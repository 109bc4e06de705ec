import WireCodecs.MessageId
import WireCodecs.TypeName

/-! Services ready for generation: every message carries its identifier, and every field the type
behind its type name. -/

namespace WireCodecs

structure Field where
  name : String
  type : TypeName
  nullable : Bool
  since : Option String
  doc : Option String
  deriving DecidableEq, Repr

structure Message where
  id : MessageId
  name : Option String
  fields : List Field
  deriving DecidableEq, Repr

structure Method where
  id : UInt8
  name : String
  since : Option String
  doc : Option String
  request : Message
  response : Message
  events : List Message
  deriving DecidableEq, Repr

/-- A composite type that a service declares. Custom types are not messages and have no
identifier. -/
structure CustomType where
  name : String
  since : Option String
  fields : List Field
  deriving DecidableEq, Repr

structure Service where
  id : UInt8
  name : String
  methods : List Method
  customTypes : List CustomType
  deriving DecidableEq, Repr

namespace Method

/-- The request, the response and the events. -/
def messages (method : Method) : List Message :=
  method.request :: method.response :: method.events

def fieldTypes (method : Method) : List TypeName :=
  method.messages.flatMap fun message => message.fields.map (·.type)

end Method

end WireCodecs
