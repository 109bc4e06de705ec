import WireCodecs.Target.MappingSet

/-! The Java mapping set. Primitives of fixed width, and enumerations over them, are coded at an
offset of the initial frame; everything else has a codec class for its frames. A container without
a codec class of its own is coded with references to the codecs of its elements, so its elements
must be framed themselves and need no further arguments. -/

namespace WireCodecs.Java

def keywords : List String := [
  "abstract", "assert", "boolean", "break", "byte", "case", "catch", "char", "class", "const",
  "continue", "default", "do", "double", "else", "enum", "extends", "final", "finally", "float",
  "for", "goto", "if", "implements", "import", "instanceof", "int", "interface", "long",
  "native", "new", "package", "private", "protected", "public", "return", "short", "static",
  "strictfp", "super", "switch", "synchronized", "this", "throw", "throws", "transient", "try",
  "void", "volatile", "while"]

/-- A primitive of fixed width: its spelling, its spelling as a type argument, and the end of the
names of its operations. -/
structure FixedPrimitive where
  spelling : String
  boxed : String
  suffix : String
  deriving DecidableEq, Repr

def fixedPrimitives : List (String × FixedPrimitive) := [
  ("Boolean", ⟨"boolean", "java.lang.Boolean", "Boolean"⟩),
  ("Byte", ⟨"byte", "java.lang.Byte", "Byte"⟩),
  ("Int16", ⟨"short", "java.lang.Short", "Short"⟩),
  ("Int32", ⟨"int", "java.lang.Integer", "Int"⟩),
  ("Int64", ⟨"long", "java.lang.Long", "Long"⟩),
  ("Float32", ⟨"float", "java.lang.Float", "Float"⟩),
  ("Float64", ⟨"double", "java.lang.Double", "Double"⟩),
  ("UUID", ⟨"java.util.UUID", "java.util.UUID", "UUID"⟩),
  ("LocalDate", ⟨"java.time.LocalDate", "java.time.LocalDate", "LocalDate"⟩),
  ("LocalTime", ⟨"java.time.LocalTime", "java.time.LocalTime", "LocalTime"⟩),
  ("LocalDateTime", ⟨"java.time.LocalDateTime", "java.time.LocalDateTime", "LocalDateTime"⟩),
  ("OffsetDateTime", ⟨"java.time.OffsetDateTime", "java.time.OffsetDateTime", "OffsetDateTime"⟩)]

/-- The spelling and the codec class of the framed primitives. -/
def framedPrimitives : List (String × String × String) := [
  ("String", "java.lang.String", "StringCodec"),
  ("ByteArray", "byte[]", "ByteArrayCodec"),
  ("Data", "com.hazelcast.internal.serialization.Data", "DataCodec")]

/-- A framed operation of a codec class. -/
def framed (codecClass verb : String) (extraArgs : List String) : Operation :=
  ⟨.frames, codecClass ++ "." ++ verb, extraArgs⟩

/-- `StringCodec.encode` is referred to as `StringCodec::encode`. -/
def methodReference (call : String) : String :=
  match (Text.splitOn '.' call).reverse with
  | method :: first :: classes =>
    Text.joinWith "." (first :: classes).reverse ++ "::" ++ method
  | _ => call

section Elements

/-- The spelling of a container's element, whose own mapping is given. -/
def elementSpelling (element : TypeName) (mapping : Except Unmapped TypeMapping) :
    Except Unmapped String :=
  match element with
  | .primitive name =>
    match fixedPrimitives.lookup name with
    | some primitive => .ok primitive.boxed
    | none => (·.spelling) <$> mapping
  | _ => (·.spelling) <$> mapping

/-- The reference to the codec of a container's element. -/
def elementReference (element : TypeName) (mapping : Except Unmapped TypeMapping) :
    Except Unmapped String :=
  match mapping with
  | .ok mapping =>
    if !mapping.op.isFixed && mapping.op.extraArgs.isEmpty then
      .ok (methodReference mapping.op.call)
    else .error (.ofType element)
  | .error unmapped => .error unmapped

end Elements

def primitiveMapping (direction : Direction) (table : TypeTable) (name : String) :
    Except Unmapped TypeMapping :=
  match fixedPrimitives.lookup name, framedPrimitives.lookup name with
  | some primitive, _ =>
    match table.fixedSize? name with
    | some size =>
      .ok ⟨primitive.spelling,
        ⟨.offset size, "FixedSizeTypesCodec." ++ direction.verb ++ primitive.suffix, []⟩⟩
    | none => .error ⟨name⟩
  | none, some (spelling, codec) => .ok ⟨spelling, framed codec direction.verb []⟩
  | none, none => .error ⟨name⟩

/-- The codec class of a container whose shape is fixed, such as `ListInt64Codec`. -/
def shapeCodec (type : TypeName) : String := Naming.pascal type.spelling ++ "Codec"

/-- The collection interface that values are taken from, or the one they are given back in. -/
def collection : Direction → String
  | .encode => "java.util.Collection"
  | .decode => "java.util.List"

/-- The mapping of a container from its spelling, and from the class, the verb and the element
references of its codec, which are not looked at if the shape is fixed. -/
def containerMapping (direction : Direction) (scope : TypeScope) (type : TypeName)
    (spelling : String) (codec verb : String) (references : Except Unmapped (List String)) :
    Except Unmapped TypeMapping :=
  if type.extent scope.table = .fixed then
    .ok ⟨spelling, framed (shapeCodec type) direction.verb []⟩
  else do return ⟨spelling, framed codec verb (← references)⟩

def mapping (direction : Direction) (scope : TypeScope) : TypeName → Except Unmapped TypeMapping
  | .primitive name => primitiveMapping direction scope.table name
  | .custom name =>
    let codecClass := Naming.pascal name
    .ok ⟨codecClass, framed (codecClass ++ "Codec") direction.verb []⟩
  | .enum base name => do
    let base ← mapping direction scope base
    return { base with spelling := (name.map Naming.pascal).getD base.spelling }
  | .list item => do
    let itemMapping := mapping direction scope item
    let element ← elementSpelling item itemMapping
    containerMapping direction scope (.list item) (collection direction ++ "<" ++ element ++ ">")
      "ListMultiFrameCodec" direction.verb (do return [← elementReference item itemMapping])
  | .nullableList item => do
    let itemMapping := mapping direction scope item
    let element ← elementSpelling item itemMapping
    containerMapping direction scope (.nullableList item)
      (collection direction ++ "<" ++ element ++ ">")
      "ListMultiFrameCodec" (direction.verb ++ "ContainsNullable")
      (do return [← elementReference item itemMapping])
  | .map key value => do
    let keyMapping := mapping direction scope key
    let valueMapping := mapping direction scope value
    let k ← elementSpelling key keyMapping
    let v ← elementSpelling value valueMapping
    containerMapping direction scope (.map key value) ("java.util.Map<" ++ k ++ ", " ++ v ++ ">")
      "MapCodec" direction.verb
      (do return [← elementReference key keyMapping, ← elementReference value valueMapping])
  | .entryList key value => do
    let keyMapping := mapping direction scope key
    let valueMapping := mapping direction scope value
    let k ← elementSpelling key keyMapping
    let v ← elementSpelling value valueMapping
    containerMapping direction scope (.entryList key value)
      (collection direction ++ "<java.util.Map.Entry<" ++ k ++ ", " ++ v ++ ">>")
      "EntryListCodec" direction.verb
      (do return [← elementReference key keyMapping, ← elementReference value valueMapping])

def mappingSet : MappingSet where
  language := .java
  typeCase := Naming.pascal
  mapping? := mapping
  escape := escapeKeyword keywords
  methodFiles := .perMethod "java"
  customFiles := .single "java"

end WireCodecs.Java
