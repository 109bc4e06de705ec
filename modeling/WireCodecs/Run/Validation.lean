import WireCodecs.Protocol
import WireCodecs.Json.Reader
import WireCodecs.Run.Basic
import WireCodecs.Schema.Reading
import WireCodecs.Schema.Service

/-! Validation: the gate that documents pass before anything is generated. All violations of all
documents are logged. -/

namespace WireCodecs

/-- What a schema finds wrong with a document. -/
abbrev Validator := Json → List Violation

/-- An implementation of schemas: what the schema of service documents finds, and what a schema that
is written as a document finds, if it is a valid schema. -/
structure SchemaEngine where
  service : Validator
  compile? : Json → Option Validator

/-- The implementation by the rules of the seventh draft, with the given checks of texts. -/
def SchemaEngine.draft7 (checks : Schema.TextChecks) : SchemaEngine :=
  ⟨ServiceSchema.set.violations,
    fun value => (SchemaSet.ofJson? checks value).map (·.violations)⟩

/-- Where the schema of a run comes from. -/
inductive SchemaSource where
  | builtin
  | file (path : String)
  deriving DecidableEq, Repr

namespace SchemaSource

/-- The schema as it is written in a file. -/
def loadJson (tree : FileTree) (path : String) : Except RunError Json :=
  match tree.readText path with
  | .error fault => .error (.file ⟨path, fault⟩)
  | .ok text =>
    match Json.parse? text with
    | some value => .ok value
    | none => .error (.schemaSyntax path)

def compile (engine : SchemaEngine) (value : Json) : Except RunError Validator :=
  match engine.compile? value with
  | some validator => .ok validator
  | none => .error .schemaInvalid

def load (engine : SchemaEngine) (tree : FileTree) : SchemaSource → Except RunError Validator
  | builtin => .ok engine.service
  | file path => do compile engine (← loadJson tree path)

end SchemaSource

/-- A violation with the path of the document. -/
structure DocumentViolation where
  source : String
  violation : Violation
  deriving DecidableEq, Repr

namespace Validation

def violations (validator : Validator) (documents : List ServiceDocument) :
    List DocumentViolation :=
  documents.flatMap fun document =>
    (validator document.value).map fun violation => ⟨document.path, violation⟩

def event (found : DocumentViolation) : LogEvent where
  level := .error
  message := "schema validation failed: " ++ found.violation.message
  fields := [("source", found.source), ("schema_path", found.violation.keyword),
    ("instance_path", found.violation.path.text)]

/-- Logs what is wrong with the documents and fails if there is anything. -/
def run (validator : Validator) (documents : List ServiceDocument) : RunM Unit := do
  let found := violations validator documents
  modify fun scene => { scene with log := scene.log ++ found.map event }
  if !found.isEmpty then throw (.validationFailed (found.map (·.source)).eraseDups.length)

end Validation

end WireCodecs
