/-! Services as they are declared: numbered methods with their messages, and the composite types
that the messages use. Types are still written as names, and messages have no identifiers yet. -/

namespace WireCodecs

structure FieldDecl where
  name : String
  typeName : String
  nullable : Bool
  since : Option String
  doc : Option String
  deriving DecidableEq, Repr

structure MessageDecl where
  name : Option String
  fields : List FieldDecl
  deriving DecidableEq, Repr

structure MethodDecl where
  id : UInt8
  name : String
  since : Option String
  doc : Option String
  request : MessageDecl
  response : MessageDecl
  events : List MessageDecl
  deriving DecidableEq, Repr

structure CustomTypeDecl where
  name : String
  since : Option String
  fields : List FieldDecl
  deriving DecidableEq, Repr

structure ServiceDecl where
  id : UInt8
  name : String
  methods : List MethodDecl
  customTypes : List CustomTypeDecl
  deriving DecidableEq, Repr

end WireCodecs
