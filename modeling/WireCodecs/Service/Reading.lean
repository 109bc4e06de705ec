import WireCodecs.Json.Writer
import WireCodecs.Text.Quoted

/-! Readers of parts of a document, and what they can find wrong. An object is read entry by entry
in the order of its keys, with entries of unknown keys left alone; a record may also be given as an
array of its parts in their declared order, where parts that have a default may be left out at the
end. -/

namespace WireCodecs

/-- What a reader looks for. -/
inductive Expected where
  | byte
  | text
  | boolean
  | sequence
  /-- A record with the given name and number of parts. -/
  | record (name : String) (size : Nat)
  deriving DecidableEq, Repr

def Expected.phrase : Expected → String
  | .byte => "u8"
  | .text => "a string"
  | .boolean => "a boolean"
  | .sequence => "a sequence"
  | .record name _ => "struct " ++ name

inductive DocumentError where
  | missingField (name : String)
  | duplicateField (name : String)
  | wrongType (found : Json) (expected : Expected)
  | outOfRange (found : Int) (expected : Expected)
  /-- The part at `index` of a record given as an array is not there. -/
  | missingPart (index : Nat) (expected : Expected)
  /-- More parts than the record has. -/
  | extraParts (count : Nat)

namespace DocumentError

/-- A value by its kind, with its text if it is a scalar. -/
def describe : Json → String
  | .null => "null"
  | .bool value => "boolean " ++ tick (if value then "true" else "false")
  | .int value => "integer " ++ tick (toString value)
  | .float value => "floating point " ++ tick value.text
  | .string value => "string " ++ Text.quoted value
  | .array _ => "sequence"
  | .object _ => "map"
where
  /-- The text between two grave accents. -/
  tick (text : String) : String := "\x60" ++ text ++ "\x60"

def message : DocumentError → String
  | missingField name => "missing field \x60" ++ name ++ "\x60"
  | duplicateField name => "duplicate field \x60" ++ name ++ "\x60"
  | wrongType found expected =>
    "invalid type: " ++ describe found ++ ", expected " ++ expected.phrase
  | outOfRange found expected =>
    "invalid value: " ++ describe (.int found) ++ ", expected " ++ expected.phrase
  | missingPart index expected =>
    let size := match expected with
      | .record _ size => " with " ++ toString size ++ " elements"
      | _ => ""
    "invalid length " ++ toString index ++ ", expected " ++ expected.phrase ++ size
  | extraParts count =>
    "invalid length " ++ toString count ++ ", expected fewer elements in array"

end DocumentError

abbrev Reader (α : Type) := Json → Except DocumentError α

namespace Reader

def byte : Reader UInt8
  | .int value =>
    if 0 ≤ value && value < 256 then .ok (UInt8.ofNat value.toNat)
    else .error (.outOfRange value .byte)
  | found => .error (.wrongType found .byte)

def text : Reader String
  | .string value => .ok value
  | found => .error (.wrongType found .text)

def boolean : Reader Bool
  | .bool value => .ok value
  | found => .error (.wrongType found .boolean)

/-- Null stands for nothing. -/
def optional {α : Type} (reader : Reader α) : Reader (Option α)
  | .null => .ok none
  | value => some <$> reader value

/-- A sequence, where null stands for the empty one. -/
def list {α : Type} (reader : Reader α) : Reader (List α)
  | .null => .ok []
  | .array items => items.mapM reader
  | found => .error (.wrongType found .sequence)

section Entries

variable {α : Type}

/-- The value at `key`, if the object has the key. -/
def entryAt? (entries : List (String × Json)) (key : String) (reader : Reader α) :
    Except DocumentError (Option α) :=
  match entries.lookup key with
  | some value => some <$> reader value
  | none => .ok none

def required (name : String) : Option α → Except DocumentError α
  | some value => .ok value
  | none => .error (.missingField name)

end Entries

section Parts

variable {α : Type}

/-- The part at `index` of a record given as an array. -/
def part? (items : List Json) (index : Nat) (reader : Reader α) :
    Except DocumentError (Option α) :=
  match items[index]? with
  | some value => some <$> reader value
  | none => .ok none

def requiredPart (record : Expected) (index : Nat) (items : List Json) (reader : Reader α) :
    Except DocumentError α := do
  match ← part? items index reader with
  | some value => return value
  | none => throw (.missingPart index record)

/-- Ends the reading of a record of `size` parts. -/
def noFurtherParts (items : List Json) (size : Nat) (result : α) : Except DocumentError α :=
  if size < items.length then .error (.extraParts items.length) else .ok result

end Parts

end Reader

end WireCodecs
