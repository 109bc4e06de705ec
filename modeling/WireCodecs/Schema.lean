import WireCodecs.Json
import WireCodecs.Schema.Pattern

/-! Schemas of documents. A schema is a list of rules for a value; a rule that is about another kind
of value says nothing. References lead to other schemas by name. -/

namespace WireCodecs

/-- The kinds of JSON values, in the order of their names. Every integer is a number. -/
inductive JsonKind where
  | array
  | boolean
  | integer
  | null
  | number
  | object
  | string
  deriving DecidableEq, Repr

namespace JsonKind

def all : List JsonKind := [array, boolean, integer, null, number, object, string]

def name : JsonKind → String
  | array => "array"
  | boolean => "boolean"
  | integer => "integer"
  | null => "null"
  | number => "number"
  | object => "object"
  | string => "string"

def ofName? (text : String) : Option JsonKind := all.find? (·.name == text)

/-- Whether a value is of a kind. A number without a fraction is an integer however it is
written. -/
def contains : JsonKind → Json → Bool
  | array, .array _ => true
  | boolean, .bool _ => true
  | integer, .int _ => true
  | integer, .float value => value.isInteger
  | null, .null => true
  | number, .int _ | number, .float _ => true
  | object, .object _ => true
  | string, .string _ => true
  | _, _ => false

end JsonKind

/-- The bounds that a rule can set to a number. -/
inductive NumberBound where
  | maximum
  | minimum
  | exclusiveMaximum
  | exclusiveMinimum
  deriving DecidableEq, Repr

namespace NumberBound

def all : List NumberBound := [maximum, minimum, exclusiveMaximum, exclusiveMinimum]

def name : NumberBound → String
  | maximum => "maximum"
  | minimum => "minimum"
  | exclusiveMaximum => "exclusiveMaximum"
  | exclusiveMinimum => "exclusiveMinimum"

def ofName? (text : String) : Option NumberBound := all.find? (·.name == text)

end NumberBound

/-- The bounds that a rule can set to the number of items, characters or members. -/
inductive SizeBound where
  | maxItems
  | minItems
  | maxLength
  | minLength
  | maxProperties
  | minProperties
  deriving DecidableEq, Repr

namespace SizeBound

def all : List SizeBound :=
  [maxItems, minItems, maxLength, minLength, maxProperties, minProperties]

def name : SizeBound → String
  | maxItems => "maxItems"
  | minItems => "minItems"
  | maxLength => "maxLength"
  | minLength => "minLength"
  | maxProperties => "maxProperties"
  | minProperties => "minProperties"

def ofName? (text : String) : Option SizeBound := all.find? (·.name == text)

/-- The size that is bounded, for values that have it. -/
def measure? : SizeBound → Json → Option Nat
  | maxItems, .array items | minItems, .array items => some items.length
  | maxLength, .string text | minLength, .string text => some text.length
  | maxProperties, .object entries | minProperties, .object entries => some entries.length
  | _, _ => none

def allows : SizeBound → (count size : Nat) → Bool
  | maxItems, count, size | maxLength, count, size | maxProperties, count, size => size ≤ count
  | minItems, count, size | minLength, count, size | minProperties, count, size => count ≤ size

end SizeBound

/-- What a schema can say about the content of a text. -/
inductive TextForm where
  | format (name : String)
  | encoding (name : String)
  /-- A media type, after the encoding if one is given too. -/
  | mediaType (name : String) (encoding : Option String)
  deriving DecidableEq, Repr

namespace TextForm

def keyword : TextForm → String
  | format _ => "format"
  | encoding _ => "contentEncoding"
  | mediaType _ _ => "contentMediaType"

end TextForm

mutual

inductive Schema where
  | always
  /-- Allows no value. The name is the last step of the way to it in the schema. -/
  | never (name : String)
  | reference (name : List String)
  | rules (rules : List Rule)

inductive Rule where
  | allOf (schemas : List Schema)
  | anyOf (schemas : List Schema)
  /-- The value is of one schema if it is of the first one, and of another if it is not. -/
  | condition (test accepted rejected : Schema)
  | const (value : Json)
  | contains (schema : Schema)
  /-- The object is of the schemas that its members come with. -/
  | dependencies (members : List (String × Schema))
  | enum (values : List Json)
  /-- There are no members. -/
  | noMembers
  /-- The members with names and those whose names fit patterns are of the given schemas, and there
  are no others. -/
  | closed (members : List (String × Schema)) (patterns : List (Pattern × Schema))
  /-- The members with names and those whose names fit patterns are of the given schemas, and all
  others are of one. -/
  | extended (members : List (String × Schema)) (patterns : List (Pattern × Schema))
    (others : Schema)
  | items (schema : Schema)
  /-- The first items are of the given schemas. -/
  | firstItems (schemas : List Schema)
  /-- The items behind the first ones are of one schema. -/
  | furtherItems (count : Nat) (schema : Schema)
  | noFurtherItems (count : Nat)
  /-- The members whose names fit patterns are of the given schemas. -/
  | matching (patterns : List (Pattern × Schema))
  /-- The members with names are of the given schemas. -/
  | members (members : List (String × Schema))
  | multipleOf (divisor : Json)
  /-- The names of members are of a schema. -/
  | names (schema : Schema)
  | noNames
  /-- The value is not of a schema, whose written form is given too. -/
  | not (written : Json) (schema : Schema)
  | number (bound : NumberBound) (limit : Json)
  | oneOf (schemas : List Schema)
  | pattern (written : String) (pattern : Pattern)
  | required (names : List String)
  /-- The members are there that one comes with. The name is the last step of the way to the rule in
  the schema. -/
  | requiredWith (name : String) (names : List String)
  | size (bound : SizeBound) (count : Nat)
  | text (form : TextForm) (fits : String → Bool)
  /-- No two items are equal. -/
  | unique
  | kinds (kinds : List JsonKind)

end

namespace Rule

/-- The keyword of a rule. -/
def keyword : Rule → String
  | allOf _ => "allOf"
  | anyOf _ => "anyOf"
  | condition _ _ _ => "if"
  | const _ => "const"
  | contains _ => "contains"
  | dependencies _ => "dependencies"
  | enum _ => "enum"
  | noMembers | closed _ _ | extended _ _ _ => "additionalProperties"
  | items _ | firstItems _ => "items"
  | furtherItems _ _ | noFurtherItems _ => "additionalItems"
  | matching _ => "patternProperties"
  | members _ => "properties"
  | multipleOf _ => "multipleOf"
  | names _ | noNames => "propertyNames"
  | not _ _ => "not"
  | number bound _ => bound.name
  | oneOf _ => "oneOf"
  | pattern _ _ => "pattern"
  | required _ => "required"
  | requiredWith name _ => name
  | size bound _ => bound.name
  | text form _ => form.keyword
  | unique => "uniqueItems"
  | kinds _ => "type"

end Rule

/-- A schema with those that its references lead to. -/
structure SchemaSet where
  root : Schema
  targets : List (List String × Schema)

end WireCodecs
