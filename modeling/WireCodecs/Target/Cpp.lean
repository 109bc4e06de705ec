import WireCodecs.Target.MappingSet

/-! The C++ mapping set. Every value is written with `msg.set` and read with `msg.get`, so a mapping
is little more than the spelling of the type. There is no mapping for lists with null items, for raw
data, and for custom types that the run does not declare. -/

namespace WireCodecs.Cpp

def keywords : List String := [
  "alignas", "alignof", "and", "asm", "auto", "bool", "break", "case", "catch", "char", "class",
  "const", "constexpr", "continue", "decltype", "default", "delete", "do", "double", "else",
  "enum", "explicit", "export", "extern", "false", "float", "for", "friend", "goto", "if",
  "inline", "int", "long", "mutable", "namespace", "new", "noexcept", "not", "nullptr",
  "operator", "or", "private", "protected", "public", "register", "return", "short", "signed",
  "sizeof", "static", "struct", "switch", "template", "this", "throw", "true", "try", "typedef",
  "typename", "union", "unsigned", "using", "virtual", "void", "volatile", "while", "xor"]

def primitives : List (String × String) := [
  ("Boolean", "bool"),
  ("Byte", "byte"),
  ("Int16", "int16_t"),
  ("Int32", "int32_t"),
  ("Int64", "int64_t"),
  ("Float32", "float"),
  ("Float64", "double"),
  ("UUID", "boost::uuids::uuid"),
  ("LocalDate", "local_date"),
  ("LocalTime", "local_time"),
  ("LocalDateTime", "local_date_time"),
  ("OffsetDateTime", "offset_date_time"),
  ("String", "std::string"),
  ("ByteArray", "std::vector<byte>")]

/-- The type of a value, the same for encoding and decoding. -/
def valueType (customTypes : List String) : TypeName → Except Unmapped String
  | .primitive name =>
    match primitives.lookup name with
    | some spelling => .ok spelling
    | none => .error ⟨name⟩
  | .custom name => if customTypes.contains name then .ok (Naming.pascal name) else .error ⟨name⟩
  | .nullableList item => .error (.ofType (.nullableList item))
  | .list item => do
    return "std::vector<" ++ (← valueType customTypes item) ++ ">"
  | .map key value => do
    let k ← valueType customTypes key
    let v ← valueType customTypes value
    return "std::unordered_map<" ++ k ++ ", " ++ v ++ ">"
  | .entryList key value => do
    let k ← valueType customTypes key
    let v ← valueType customTypes value
    return "std::vector<std::pair<" ++ k ++ ", " ++ v ++ ">>"
  | .enum base _ => valueType customTypes base

/-- Types with a width have their place at an offset, all others in frames. -/
def place (table : TypeTable) (type : TypeName) : Place :=
  match type.fixedWidth? table with
  | some size => .offset size
  | none => .frames

/-- The type of an encoder's parameter: the value itself if it has a width, else a reference. -/
def parameterType (value : String) : Place → String
  | .offset _ => value
  | .frames => "const " ++ value ++ " &"

def mapping (direction : Direction) (scope : TypeScope) (type : TypeName) :
    Except Unmapped TypeMapping := do
  let value ← valueType scope.customTypes type
  let place := place scope.table type
  match direction with
  | .encode => return ⟨parameterType value place, ⟨place, "msg.set", []⟩⟩
  | .decode => return ⟨value, ⟨place, "msg.get<" ++ value ++ ">", []⟩⟩

def mappingSet : MappingSet where
  language := .cpp
  typeCase := Naming.pascal
  mapping? := mapping
  escape := escapeKeyword keywords
  methodFiles := .consolidated "codecs.h" "codecs.cpp"
  customFiles := .pair "_codec" "h" "cpp"

end WireCodecs.Cpp
