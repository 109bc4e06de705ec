import WireCodecs.Json.Writer
import WireCodecs.Schema

/-! What is wrong with a value by a schema: every rule that fails, at every place of the value. -/

namespace WireCodecs

/-- The way from a document to a part of it, by names and indexes. -/
abbrev JsonPath := List String

structure Violation where
  /-- Where the value is that a rule fails for. -/
  path : JsonPath
  keyword : String
  message : String
  deriving DecidableEq, Repr

namespace JsonPath

/-- A step without slashes and with escaped tildes. -/
def escapeChars (step : String) : List Char :=
  step.toList.flatMap fun c =>
    if c = '~' then ['~', '0'] else if c = '/' then ['~', '1'] else [c]

def escape (step : String) : String := String.ofList (escapeChars step)

/-- A path with a slash before each step. -/
def text (path : JsonPath) : String :=
  String.ofList (path.flatMap fun step => '/' :: escapeChars step)

end JsonPath

namespace Json

def isNumber : Json → Bool
  | int _ | float _ => true
  | _ => false

end Json

namespace Schema

section Numbers

/-- A number as a fraction. -/
def ratio? : Json → Option (Int × Nat)
  | .int value => some (value, 1)
  | .float value => some (value.numerator, value.ratio.2)
  | _ => none

/-- Whether both are numbers and the first is below the second. -/
def isBelow (x y : Json) : Bool :=
  match ratio? x, ratio? y with
  | some (a, b), some (c, d) => a * d < c * b
  | _, _ => false

/-- Whether both are numbers and stand for the same one. -/
def isSameNumber (x y : Json) : Bool :=
  match ratio? x, ratio? y with
  | some (a, b), some (c, d) => a * d = c * b
  | _, _ => false

/-- Whether a number is on the wrong side of a bound. -/
def breaks (bound : NumberBound) (limit value : Json) : Bool :=
  match bound with
  | .maximum => isBelow limit value
  | .minimum => isBelow value limit
  | .exclusiveMaximum => value.isNumber && !isBelow value limit
  | .exclusiveMinimum => value.isNumber && !isBelow limit value

/-- The absolute value of a number, in decimal as it is written. -/
def decimal? : Json → Option Binary64.Decimal
  | .int value => some ⟨value.natAbs, 0⟩
  | .float value => some value.shortest
  | _ => none

/-- Whether one decimal is a whole number of times another. -/
def isMultiple (value divisor : Binary64.Decimal) : Bool :=
  let least := min value.exponent divisor.exponent
  let scaled (d : Binary64.Decimal) := d.digits * Nat.pow 10 (d.exponent - least).toNat
  scaled value % scaled divisor == 0

end Numbers

end Schema

namespace Json

section Equality

mutual

/-- Whether two values are equal, where a number counts as what it stands for. -/
def equals : Json → Json → Bool
  | null, null => true
  | bool value, bool other => value == other
  | string text, string other => text == other
  | array items, array others => itemsEqual items others
  | object entries, object others => entriesEqual entries others
  | value, other => Schema.isSameNumber value other

def itemsEqual : List Json → List Json → Bool
  | [], [] => true
  | item :: items, other :: others => equals item other && itemsEqual items others
  | _, _ => false

def entriesEqual : List (String × Json) → List (String × Json) → Bool
  | [], [] => true
  | (key, value) :: entries, (other, found) :: others =>
    key == other && equals value found && entriesEqual entries others
  | _, _ => false

end

def areDistinct : List Json → Bool
  | [] => true
  | item :: items => !items.any item.equals && areDistinct items

end Equality

end Json

namespace Schema

section Messages

def kindList (kinds : List JsonKind) : String :=
  Text.joinWith ", " ((JsonKind.all.filter kinds.contains).map fun kind => Json.quote kind.name)

/-- A count with its noun. -/
def counted (count : Nat) (one many : String) : String :=
  toString count ++ " " ++ (if count = 1 then one else many)

/-- A failure of the rule at hand. -/
def failure (path : JsonPath) (rule : Rule) (message : String) : Violation :=
  ⟨path, rule.keyword, message⟩

def neverMessage (value : Json) : String := "False schema does not allow " ++ value.render

def unexpectedMessage (what : String) (found : List String) : String :=
  "Additional " ++ what ++ " are not allowed (" ++ Text.joinWith ", " found ++
    (if found.length = 1 then " was" else " were") ++ " unexpected)"

def kindMessage (value : Json) : List JsonKind → String
  | [kind] => value.render ++ " is not of type " ++ Json.quote kind.name
  | kinds => value.render ++ " is not of types " ++ kindList kinds

def noneMessage (value : Json) (keyword : String) : String :=
  value.render ++ " is not valid under any of the schemas listed in the '" ++ keyword ++ "' keyword"

/-- Of more than three choices only two are named. -/
def choices (values : List Json) : String :=
  let texts := values.map (·.render)
  if 3 < values.length then
    Text.joinWith ", " (texts.take 2) ++ " or " ++ toString (values.length - 2) ++
      " other candidates"
  else
    match texts.reverse with
    | last :: first :: before => Text.joinWith ", " (first :: before).reverse ++ " or " ++ last
    | texts => Text.joinWith ", " texts

def boundMessage (bound : NumberBound) (limit value : Json) : String :=
  value.render ++
    (match bound with
      | .maximum => " is greater than the maximum of "
      | .minimum => " is less than the minimum of "
      | .exclusiveMaximum => " is greater than or equal to the maximum of "
      | .exclusiveMinimum => " is less than or equal to the minimum of ") ++ limit.render

def sizeMessage (bound : SizeBound) (count : Nat) (value : Json) : String :=
  value.render ++
    match bound with
    | .maxItems => " has more than " ++ counted count "item" "items"
    | .minItems => " has less than " ++ counted count "item" "items"
    | .maxLength => " is longer than " ++ counted count "character" "characters"
    | .minLength => " is shorter than " ++ counted count "character" "characters"
    | .maxProperties => " has more than " ++ counted count "property" "properties"
    | .minProperties => " has less than " ++ counted count "property" "properties"

def formMessage (form : TextForm) (value : Json) : String :=
  value.render ++
    match form with
    | .format name => " is not a \"" ++ name ++ "\""
    | .encoding name => " is not compliant with \"" ++ name ++ "\" content encoding"
    | .mediaType name _ => " is not compliant with \"" ++ name ++ "\" media type"

end Messages

section Rules

/-- Follows a reference at a place of a document. -/
abbrev Follow := List String → JsonPath → Json → List Violation

/-- The names that are not those of members. -/
def missing (names : List String) (entries : List (String × Json)) : List String :=
  names.filter fun name => (entries.lookup name).isNone

/-- Whether a member has a schema by its name. -/
def isNamed (members : List (String × Schema)) (patterns : List (Pattern × Schema))
    (name : String) : Bool :=
  (members.map (·.1)).contains name || (patterns.map (·.1)).any (·.fits name)

/-- A failure of each of the rules that require a name. -/
def missingFailures (path : JsonPath) (rule : Rule) (names : List String)
    (entries : List (String × Json)) : List Violation :=
  (missing names entries).map fun name =>
    failure path rule (Json.quote name ++ " is a required property")

mutual

def violations (follow : Follow) : Schema → JsonPath → Json → List Violation
  | .always, _, _ => []
  | .never name, path, value => [⟨path, name, neverMessage value⟩]
  | .reference name, path, value => follow name path value
  | .rules list, path, value => ruleListViolations follow list path value

def ruleListViolations (follow : Follow) : List Rule → JsonPath → Json → List Violation
  | [], _, _ => []
  | rule :: rest, path, value =>
    ruleViolations follow rule path value ++ ruleListViolations follow rest path value

def ruleViolations (follow : Follow) : Rule → JsonPath → Json → List Violation
  | .allOf schemas, path, value => allViolations follow schemas path value
  | .anyOf schemas, path, value =>
    if acceptingCount follow schemas path value = 0 then
      [failure path (.anyOf schemas) (noneMessage value "anyOf")]
    else []
  | .condition test accepted rejected, path, value =>
    if (violations follow test path value).isEmpty then violations follow accepted path value
    else violations follow rejected path value
  | .const expected, path, value =>
    if value.equals expected then []
    else [failure path (.const expected) (expected.render ++ " was expected")]
  | .contains schema, path, .array items =>
    if items.any fun item => (violations follow schema path item).isEmpty then []
    else
      [failure path (.contains schema)
        ("None of " ++ (Json.array items).render ++ " are valid under the given schema")]
  | .dependencies members, path, .object entries =>
    dependencyViolations follow members path entries
  | .enum values, path, value =>
    if values.any value.equals then []
    else [failure path (.enum values) (value.render ++ " is not one of " ++ choices values)]
  | .noMembers, path, .object ((_, value) :: _) => [failure path .noMembers (neverMessage value)]
  | .closed members patterns, path, .object entries =>
    let unexpected := (entries.map (·.1)).filter fun name => !isNamed members patterns name
    memberViolations follow members path entries ++
      patternViolations follow patterns path entries ++
      if unexpected.isEmpty then []
      else
        [failure path (.closed members patterns)
          (unexpectedMessage "properties" (unexpected.map fun name => "'" ++ name ++ "'"))]
  | .extended members patterns others, path, .object entries =>
    memberViolations follow members path entries ++
      patternViolations follow patterns path entries ++
      (entries.filter fun entry => !isNamed members patterns entry.1).flatMap
        fun (name, value) => violations follow others (path ++ [name]) value
  | .items schema, path, .array items =>
    items.zipIdx.flatMap fun (item, index) =>
      violations follow schema (path ++ [toString index]) item
  | .firstItems schemas, path, .array items => itemViolations follow schemas path 0 items
  | .furtherItems count schema, path, .array items =>
    (items.zipIdx.drop count).flatMap fun (item, index) =>
      violations follow schema (path ++ [toString index]) item
  | .noFurtherItems count, path, .array items =>
    if items.length ≤ count then []
    else
      [failure path (.noFurtherItems count)
        (unexpectedMessage "items" ((items.drop count).map (·.render)))]
  | .matching patterns, path, .object entries => patternViolations follow patterns path entries
  | .members members, path, .object entries => memberViolations follow members path entries
  | .multipleOf divisor, path, value =>
    match decimal? value, decimal? divisor with
    | some number, some unit =>
      if isMultiple number unit then []
      else
        [failure path (.multipleOf divisor)
          (value.render ++ " is not a multiple of " ++ divisor.render)]
    | _, _ => []
  | .names schema, path, .object entries =>
    entries.flatMap fun (name, _) =>
      (violations follow schema path (.string name)).map fun found =>
        failure path (.names schema) found.message
  | .noNames, path, .object entries =>
    if entries.isEmpty then []
    else [failure path .noNames (neverMessage (.object entries))]
  | .not written schema, path, value =>
    if (violations follow schema path value).isEmpty then
      [failure path (.not written schema)
        (written.render ++ " is not allowed for " ++ value.render)]
    else []
  | .number bound limit, path, value =>
    if breaks bound limit value then
      [failure path (.number bound limit) (boundMessage bound limit value)]
    else []
  | .oneOf schemas, path, value =>
    match acceptingCount follow schemas path value with
    | 0 => [failure path (.oneOf schemas) (noneMessage value "oneOf")]
    | 1 => []
    | _ =>
      [failure path (.oneOf schemas) (value.render ++
        " is valid under more than one of the schemas listed in the 'oneOf' keyword")]
  | .pattern written pattern, path, .string text =>
    if pattern.fits text then []
    else
      [failure path (.pattern written pattern)
        (Json.quote text ++ " does not match \"" ++ written ++ "\"")]
  | .required names, path, .object entries =>
    missingFailures path (.required names) names entries
  | .requiredWith name names, path, .object entries =>
    missingFailures path (.requiredWith name names) names entries
  | .size bound count, path, value =>
    if (bound.measure? value).all (bound.allows count) then []
    else [failure path (.size bound count) (sizeMessage bound count value)]
  | .text form fits, path, .string text =>
    if fits text then [] else [failure path (.text form fits) (formMessage form (.string text))]
  | .unique, path, .array items =>
    if Json.areDistinct items then []
    else [failure path .unique ((Json.array items).render ++ " has non-unique elements")]
  | .kinds kinds, path, value =>
    if kinds.any (·.contains value) then []
    else [failure path (.kinds kinds) (kindMessage value kinds)]
  | _, _, _ => []

def allViolations (follow : Follow) : List Schema → JsonPath → Json → List Violation
  | [], _, _ => []
  | schema :: schemas, path, value =>
    violations follow schema path value ++ allViolations follow schemas path value

/-- The number of schemas that find nothing wrong. -/
def acceptingCount (follow : Follow) : List Schema → JsonPath → Json → Nat
  | [], _, _ => 0
  | schema :: schemas, path, value =>
    (if (violations follow schema path value).isEmpty then 1 else 0) +
      acceptingCount follow schemas path value

/-- The violations in the members that have a schema of their own. -/
def memberViolations (follow : Follow) :
    List (String × Schema) → JsonPath → List (String × Json) → List Violation
  | [], _, _ => []
  | (name, schema) :: members, path, entries =>
    (match entries.lookup name with
      | some value => violations follow schema (path ++ [name]) value
      | none => []) ++ memberViolations follow members path entries

def patternViolations (follow : Follow) :
    List (Pattern × Schema) → JsonPath → List (String × Json) → List Violation
  | [], _, _ => []
  | (pattern, schema) :: patterns, path, entries =>
    ((entries.filter fun entry => pattern.fits entry.1).flatMap fun (name, value) =>
      violations follow schema (path ++ [name]) value) ++
      patternViolations follow patterns path entries

/-- The violations of the schemas that an object's members come with. -/
def dependencyViolations (follow : Follow) :
    List (String × Schema) → JsonPath → List (String × Json) → List Violation
  | [], _, _ => []
  | (name, schema) :: members, path, entries =>
    (if (entries.lookup name).isSome then violations follow schema path (.object entries)
      else []) ++
      dependencyViolations follow members path entries

def itemViolations (follow : Follow) :
    List Schema → JsonPath → (index : Nat) → List Json → List Violation
  | schema :: schemas, path, index, item :: items =>
    violations follow schema (path ++ [toString index]) item ++
      itemViolations follow schemas path (index + 1) items
  | _, _, _, _ => []

end

end Rules

end Schema

namespace Json

mutual

/-- How deep a value is nested. -/
def depth : Json → Nat
  | array items => itemsDepth items + 1
  | object entries => entriesDepth entries + 1
  | _ => 1

def itemsDepth : List Json → Nat
  | [] => 0
  | item :: items => max item.depth (itemsDepth items)

def entriesDepth : List (String × Json) → Nat
  | [] => 0
  | (_, value) :: entries => max value.depth (entriesDepth entries)

end

end Json

namespace SchemaSet

/-- Follows references, at most `hops` of them one inside another. -/
def follow (set : SchemaSet) : (hops : Nat) → Schema.Follow
  | 0 => fun _ _ _ => []
  | hops + 1 => fun name path value =>
    match set.targets.lookup name with
    | some schema => schema.violations (set.follow hops) path value
    | none => []

/-- The number of references that can follow each other inside a value: each of them once at every
depth, unless they lead in a circle. -/
def maxHops (set : SchemaSet) (value : Json) : Nat := set.targets.length * value.depth

/-- All violations of a document. -/
def violations (set : SchemaSet) (document : Json) : List Violation :=
  set.root.violations (set.follow (set.maxHops document)) [] document

end SchemaSet

end WireCodecs
