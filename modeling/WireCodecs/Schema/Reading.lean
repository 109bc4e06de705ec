import WireCodecs.Json.Writer
import WireCodecs.Schema.Pattern.Parser
import WireCodecs.Schema.Reference
import WireCodecs.Schema.Violation

/-! Reading schemas from JSON. The root and the schemas in it must be well formed, used or not; what
else references lead to need only make sense as it is read. -/

namespace WireCodecs

namespace Json

/-- The bound that a number sets to a size: an integer however it is written, and zero if it is
negative. -/
def bound? : Json → Option Nat
  | int value => some value.toNat
  | float value =>
    if !value.isInteger then none
    else if value.negative then some 0
    else some (min (value.ratio.1 / value.ratio.2) (Nat.pow 2 64 - 1))
  | _ => none

def isNegative : Json → Bool
  | int value => value < 0
  | float value => value.negative && value.mantissa != 0
  | _ => false

def text? : Json → Option String
  | string text => some text
  | _ => none

def items? : Json → Option (List Json)
  | array items => some items
  | _ => none

/-- The texts of an array of strings. -/
def texts? : Json → Option (List String)
  | array items => items.mapM text?
  | _ => none

end Json

namespace Schema

section WellFormed

/-- A kind by its name, or a list of kinds. -/
def kinds? : Json → Option (List JsonKind)
  | .string name => (JsonKind.ofName? name).map ([·])
  | value => do (← value.texts?).mapM JsonKind.ofName?

def areDistinct (texts : List String) : Bool := texts.eraseDups.length == texts.length

/-- Whether a value is one kind, or a list of one or more distinct kinds. -/
def areWellFormedKinds (value : Json) : Bool :=
  (kinds? value).any (!·.isEmpty) && areDistinct (value.texts?.getD [])

/-- Whether the value of a keyword without schemas in it is well formed. -/
def isWellFormedScalar (keyword : String) (value : Json) : Bool :=
  if ["$schema", "$id", "$comment", "title", "description", "format", "contentEncoding",
    "contentMediaType"].contains keyword then value.text?.isSome
  else if keyword = "$ref" then value.text?.any Reference.isWellFormed
  else if keyword = "pattern" then (value.text?.bind Pattern.parse?).isSome
  else if (NumberBound.ofName? keyword).isSome then value.isNumber
  else if keyword = "multipleOf" then isBelow (.int 0) value
  else if (SizeBound.ofName? keyword).isSome then value.bound?.isSome && !value.isNegative
  else if keyword = "required" then value.texts?.any areDistinct
  else if keyword = "type" then areWellFormedKinds value
  else if ["enum", "examples"].contains keyword then value.items?.isSome
  else if ["readOnly", "uniqueItems", "writeOnly"].contains keyword then
    (JsonKind.boolean.contains value)
  else true

/-- The ways in which the value of a keyword holds schemas. -/
inductive Holding where
  | schema
  | schemas
  /-- A schema or several of them. -/
  | either
  | members
  /-- Members whose names are patterns. -/
  | patterns
  /-- Members that may be lists of names instead. -/
  | dependencies
  deriving DecidableEq, Repr

def holding? : (keyword : String) → Option Holding
  | "additionalItems" | "additionalProperties" | "contains" | "else" | "if" | "not"
  | "propertyNames" | "then" => some .schema
  | "allOf" | "anyOf" | "oneOf" => some .schemas
  | "items" => some .either
  | "definitions" | "properties" => some .members
  | "patternProperties" => some .patterns
  | "dependencies" => some .dependencies
  | _ => none

mutual

def isWellFormed : Json → Bool
  | .bool _ => true
  | .object entries => areWellFormedEntries entries
  | _ => false

def areWellFormedEntries : List (String × Json) → Bool
  | [] => true
  | (keyword, value) :: entries =>
    isWellFormedScalar keyword value && holdsWellFormed (holding? keyword) value &&
      areWellFormedEntries entries

/-- Whether the schemas in the value of a keyword are well formed. -/
def holdsWellFormed : Option Holding → Json → Bool
  | none, _ => true
  | some .schema, .bool _ | some .either, .bool _ => true
  | some .schema, .object entries | some .either, .object entries => areWellFormedEntries entries
  | some .schemas, .array items | some .either, .array items =>
    !items.isEmpty && areWellFormedItems items
  | some .members, .object entries => areWellFormedValues entries
  | some .patterns, .object entries =>
    entries.all (fun entry => (Pattern.parse? entry.1).isSome) && areWellFormedValues entries
  | some .dependencies, .object entries => areWellFormedDependencies entries
  | _, _ => false

def areWellFormedValues : List (String × Json) → Bool
  | [] => true
  | (_, value) :: entries => isWellFormed value && areWellFormedValues entries

def areWellFormedDependencies : List (String × Json) → Bool
  | [] => true
  | (_, .array items) :: entries =>
    (Json.texts? (.array items)).any areDistinct && areWellFormedDependencies entries
  | (_, value) :: entries => isWellFormed value && areWellFormedDependencies entries

def areWellFormedItems : List Json → Bool
  | [] => true
  | item :: items => isWellFormed item && areWellFormedItems items

end

end WellFormed

/-- The checks of formats, encodings and media types. What is not known is not checked. -/
abbrev TextChecks := TextForm → Option (String → Bool)

/-- No text is checked. -/
def TextChecks.none : TextChecks := fun _ => Option.none

section Reading

variable (checks : TextChecks)

/-- The value of a keyword, with the schemas in it read. -/
inductive Operand where
  | schema (schema : Schema)
  | schemas (schemas : List Schema)
  | members (members : List (String × Schema))
  | patterns (patterns : List (Pattern × Schema))
  | plain

def formRules (form : TextForm) : List Rule := (checks form).toList.map (.text form)

/-- The rules of an entry without schemas in it. -/
def scalarRules? (entries : List (String × Json)) (keyword : String) (value : Json) :
    Option (List Rule) :=
  match NumberBound.ofName? keyword, SizeBound.ofName? keyword with
  | some bound, _ => if value.isNumber then some [.number bound value] else none
  | none, some bound => do return [.size bound (← value.bound?)]
  | none, none =>
    match keyword with
    | "const" => some [.const value]
    | "contentEncoding" => do return formRules checks (.encoding (← value.text?))
    | "contentMediaType" => do
      return formRules checks (.mediaType (← value.text?)
        ((entries.lookup "contentEncoding").bind (·.text?)))
    | "enum" => do return [.enum (← value.items?)]
    | "format" => do return formRules checks (.format (← value.text?))
    | "multipleOf" => if value.isNumber then some [.multipleOf value] else none
    | "pattern" => do
      let written ← value.text?
      return [.pattern written (← Pattern.parse? written)]
    | "required" => do return [.required (← value.texts?)]
    | "type" => do return [.kinds (← kinds? value)]
    | "uniqueItems" =>
      match value with
      | .bool isUnique => some (if isUnique then [.unique] else [])
      | _ => none
    | _ => some []

/-- The schema that a keyword holds, if it is there. -/
def operandSchema? (operands : List (String × Operand)) (keyword : String) : Option Schema :=
  match operands.lookup keyword with
  | some (.schema schema) => some schema
  | _ => none

/-- What the members of an object are beside those with names and fitting names. The rule for them
takes the place of the rules for those, if there are any. -/
def furtherRules (operands : List (String × Operand)) (schema : Schema) : List Rule :=
  let members := match operands.lookup "properties" with
    | some (.members members) => some members
    | _ => none
  let patterns := match operands.lookup "patternProperties" with
    | some (.patterns patterns) => some patterns
    | _ => none
  match schema, members, patterns with
  | .always, _, _ => []
  | .never _, none, none => [.noMembers]
  | .never _, members, patterns => [.closed (members.getD []) (patterns.getD [])]
  | schema, members, patterns => [.extended (members.getD []) (patterns.getD []) schema]

/-- Whether one rule is about all members. -/
def isCombined (operands : List (String × Operand)) : Bool :=
  match operandSchema? operands "additionalProperties" with
  | some .always | none => false
  | some _ => true

def rulesOf? (entries : List (String × Json)) (operands : List (String × Operand))
    (keyword : String) (value : Json) (operand : Operand) : Option (List Rule) :=
  match keyword, operand with
  | "additionalItems", .schema schema => some <|
    match operands.lookup "items", schema with
    | some (.schemas schemas), .never _ => [.noFurtherItems schemas.length]
    | some (.schemas _), .always => []
    | some (.schemas schemas), schema => [.furtherItems schemas.length schema]
    | _, _ => []
  | "additionalProperties", .schema schema => some (furtherRules operands schema)
  | "allOf", .schemas schemas => some [.allOf schemas]
  | "anyOf", .schemas schemas => some [.anyOf schemas]
  | "contains", .schema schema => some [.contains schema]
  | "dependencies", .members members => some [.dependencies members]
  | "if", .schema test => some <|
    match operandSchema? operands "then", operandSchema? operands "else" with
    | none, none => []
    | accepted, rejected => [.condition test (accepted.getD .always) (rejected.getD .always)]
  | "items", .schema .always => some []
  | "items", .schema schema => some [.items schema]
  | "items", .schemas schemas => some [.firstItems schemas]
  | "not", .schema schema => some [.not value schema]
  | "oneOf", .schemas schemas => some [.oneOf schemas]
  | "patternProperties", .patterns patterns =>
    some (if isCombined operands then [] else [.matching patterns])
  | "properties", .members members => some (if isCombined operands then [] else [.members members])
  | "propertyNames", .schema .always => some []
  | "propertyNames", .schema (.never _) => some [.noNames]
  | "propertyNames", .schema schema => some [.names schema]
  | keyword, .plain => scalarRules? checks entries keyword value
  | _, _ => some []

def rulesOfEntries? (entries : List (String × Json)) (operands : List (String × Operand)) :
    Option (List Rule) := do
  let rules ← (entries.zip operands).mapM fun ((keyword, value), (_, operand)) =>
    rulesOf? checks entries operands keyword value operand
  return rules.flatten

/-- The schema with these entries, given what their values hold. Beside a reference all else is
void. -/
def ofEntries? (entries : List (String × Json)) (operands : Option (List (String × Operand))) :
    Option Schema :=
  match entries.lookup "$ref" with
  | some target => do return .reference (← Reference.steps? (← target.text?))
  | none => do return .rules (← rulesOfEntries? checks entries (← operands))

/-- Whether the schemas of a keyword are part of the schema with these entries. -/
def isRead (entries : List (String × Json)) : (keyword : String) → Bool
  | "additionalItems" => ((entries.lookup "items").bind (·.items?)).isSome
  | "definitions" => false
  | "if" => (entries.lookup "then").isSome || (entries.lookup "else").isSome
  | "then" | "else" => (entries.lookup "if").isSome
  | _ => true

mutual

/-- A schema whose place has the given last step. -/
def read? (name : String) : Json → Option Schema
  | .bool isAlways => some (if isAlways then .always else .never name)
  | .object entries => ofEntries? checks entries (readEntries? entries entries)
  | _ => none

def readEntries? (whole : List (String × Json)) :
    List (String × Json) → Option (List (String × Operand))
  | [] => some []
  | (keyword, value) :: entries => do
    let holding := if isRead whole keyword then holding? keyword else none
    return (keyword, ← readOperand? keyword holding value) :: (← readEntries? whole entries)

/-- The schemas of a keyword. Where items have none, other values say nothing of them. -/
def readOperand? (keyword : String) : Option Holding → Json → Option Operand
  | none, _ => some .plain
  | some .schema, .bool isAlways | some .either, .bool isAlways =>
    some (.schema (if isAlways then .always else .never keyword))
  | some .schema, .object entries | some .either, .object entries =>
    .schema <$> ofEntries? checks entries (readEntries? entries entries)
  | some .schemas, .array items | some .either, .array items => .schemas <$> readItems? 0 items
  | some .either, _ => some .plain
  | some .members, .object entries => .members <$> readValues? entries
  | some .patterns, .object entries => .patterns <$> readPatterns? entries
  | some .dependencies, .object entries => .members <$> readDependencies? entries
  | _, _ => none

def readValues? : List (String × Json) → Option (List (String × Schema))
  | [] => some []
  | (name, value) :: entries => do
    return (name, ← read? (JsonPath.escape name) value) :: (← readValues? entries)

def readPatterns? : List (String × Json) → Option (List (Pattern × Schema))
  | [] => some []
  | (name, value) :: entries => do
    return (← Pattern.parse? name, ← read? (JsonPath.escape name) value) ::
      (← readPatterns? entries)

def readDependencies? : List (String × Json) → Option (List (String × Schema))
  | [] => some []
  | (name, .array items) :: entries => do
    let rule := .requiredWith (JsonPath.escape name) (← Json.texts? (.array items))
    return (name, .rules [rule]) :: (← readDependencies? entries)
  | (name, value) :: entries => do
    return (name, ← read? (JsonPath.escape name) value) :: (← readDependencies? entries)

def readItems? (index : Nat) : List Json → Option (List Schema)
  | [] => some []
  | item :: items => do
    return (← read? (toString index) item) :: (← readItems? (index + 1) items)

end

end Reading

section References

mutual

/-- Where the references in a schema lead. -/
def references : Schema → List (List String)
  | .always | .never _ => []
  | .reference name => [name]
  | .rules list => ruleListReferences list

def ruleListReferences : List Rule → List (List String)
  | [] => []
  | rule :: rest => ruleReferences rule ++ ruleListReferences rest

def ruleReferences : Rule → List (List String)
  | .allOf schemas | .anyOf schemas | .firstItems schemas | .oneOf schemas =>
    schemaListReferences schemas
  | .condition test accepted rejected =>
    references test ++ references accepted ++ references rejected
  | .closed members patterns => memberReferences members ++ patternReferences patterns
  | .extended members patterns others =>
    memberReferences members ++ patternReferences patterns ++ references others
  | .dependencies members | .members members => memberReferences members
  | .matching patterns => patternReferences patterns
  | .contains schema | .furtherItems _ schema | .items schema | .names schema | .not _ schema =>
    references schema
  | _ => []

def memberReferences : List (String × Schema) → List (List String)
  | [] => []
  | (_, schema) :: members => references schema ++ memberReferences members

def patternReferences : List (Pattern × Schema) → List (List String)
  | [] => []
  | (_, schema) :: patterns => references schema ++ patternReferences patterns

def schemaListReferences : List Schema → List (List String)
  | [] => []
  | schema :: schemas => references schema ++ schemaListReferences schemas

end

/-- Reads the schemas that `pending` leads to and all that those lead to, where `found` are read
already. `fuel` bounds the number of references. -/
def readTargets? (checks : TextChecks) (whole : Json) (fuel : Nat)
    (found : List (List String × Schema)) (pending : List (List String)) :
    Option (List (List String × Schema)) :=
  match fuel, pending with
  | _, [] => some found
  | 0, _ => none
  | fuel + 1, steps :: pending =>
    if (found.lookup steps).isSome then
      readTargets? checks whole fuel found pending
    else do
      let schema ← read? checks "$ref" (← Reference.resolve? steps whole)
      readTargets? checks whole fuel ((steps, schema) :: found) (references schema ++ pending)

end References

end Schema

namespace SchemaSet

/-- The schema that a JSON value is, if it is a valid one. A schema has fewer references than its
written form has characters, and each is followed once from each schema that is read. -/
def ofJson? (checks : Schema.TextChecks) (value : Json) : Option SchemaSet := do
  if !Schema.isWellFormed value then none
  let root ← Schema.read? checks "" value
  let size := value.render.length
  return ⟨root, ← Schema.readTargets? checks value (size * size + 1) [] root.references⟩

end SchemaSet

end WireCodecs
