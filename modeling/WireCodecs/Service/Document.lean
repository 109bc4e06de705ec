import WireCodecs.Service.Declaration
import WireCodecs.Service.Reading

/-! Service documents: the readers that turn an untyped document into declarations, and the
documents that declarations are written as. The list of a message's or custom type's fields may be
under the key `fields` or `params`, but not under both. -/

namespace WireCodecs

open Reader

/-- The field list under either of its keys; `between` reads what lies between them in the order of
keys. -/
def readFieldList {α : Type} (entries : List (String × Json)) (reader : Reader (List FieldDecl))
    (between : Except DocumentError α) : Except DocumentError (List FieldDecl × α) := do
  let fields ← entryAt? entries "fields" reader
  let middle ← between
  match fields, entries.lookup "params" with
  | some fields, none => return (fields, middle)
  | some _, some _ => throw (.duplicateField "fields")
  | none, some params => return (← reader params, middle)
  | none, none => return ([], middle)

namespace FieldDecl

def record : Expected := .record "FieldDef" 5

def ofEntries (entries : List (String × Json)) : Except DocumentError FieldDecl := do
  let doc ← entryAt? entries "doc" (optional text)
  let name ← entryAt? entries "name" text
  let nullable ← entryAt? entries "nullable" boolean
  let since ← entryAt? entries "since" (optional text)
  let type ← entryAt? entries "type" text
  return {
    name := ← required "name" name
    typeName := ← required "type" type
    nullable := nullable.getD false
    since := since.join
    doc := doc.join }

def ofParts (items : List Json) : Except DocumentError FieldDecl := do
  let name ← requiredPart record 0 items text
  let type ← requiredPart record 1 items text
  let nullable ← part? items 2 boolean
  let since ← part? items 3 (optional text)
  let doc ← part? items 4 (optional text)
  noFurtherParts items 5 ⟨name, type, nullable.getD false, since.join, doc.join⟩

def read : Reader FieldDecl
  | .object entries => ofEntries entries
  | .array items => ofParts items
  | found => .error (.wrongType found record)

def toJson (field : FieldDecl) : Json :=
  Json.ofEntries <|
    [("name", .string field.name), ("type", .string field.typeName),
      ("nullable", .bool field.nullable)] ++
    (field.since.map fun since => ("since", Json.string since)).toList ++
    (field.doc.map fun doc => ("doc", Json.string doc)).toList

end FieldDecl

namespace MessageDecl

def record : Expected := .record "MessageDef" 2

def ofEntries (entries : List (String × Json)) : Except DocumentError MessageDecl := do
  let (fields, name) ← readFieldList entries (list FieldDecl.read)
    (entryAt? entries "name" (optional text))
  return ⟨name.join, fields⟩

def ofParts (items : List Json) : Except DocumentError MessageDecl := do
  let name ← part? items 0 (optional text)
  let fields ← part? items 1 (list FieldDecl.read)
  noFurtherParts items 2 ⟨name.join, fields.getD []⟩

def read : Reader MessageDecl
  | .object entries => ofEntries entries
  | .array items => ofParts items
  | found => .error (.wrongType found record)

def toJson (message : MessageDecl) : Json :=
  Json.ofEntries <|
    (message.name.map fun name => ("name", Json.string name)).toList ++
    [("fields", .array (message.fields.map FieldDecl.toJson))]

end MessageDecl

namespace MethodDecl

def record : Expected := .record "MethodDef" 7

def ofEntries (entries : List (String × Json)) : Except DocumentError MethodDecl := do
  let doc ← entryAt? entries "doc" (optional text)
  let events ← entryAt? entries "events" (list MessageDecl.read)
  let id ← entryAt? entries "id" byte
  let name ← entryAt? entries "name" text
  let request ← entryAt? entries "request" MessageDecl.read
  let response ← entryAt? entries "response" MessageDecl.read
  let since ← entryAt? entries "since" (optional text)
  return {
    id := ← required "id" id
    name := ← required "name" name
    since := since.join
    doc := doc.join
    request := ← required "request" request
    response := ← required "response" response
    events := events.getD [] }

def ofParts (items : List Json) : Except DocumentError MethodDecl := do
  let id ← requiredPart record 0 items byte
  let name ← requiredPart record 1 items text
  let since ← part? items 2 (optional text)
  let doc ← part? items 3 (optional text)
  let request ← requiredPart record 4 items MessageDecl.read
  let response ← requiredPart record 5 items MessageDecl.read
  let events ← part? items 6 (list MessageDecl.read)
  noFurtherParts items 7
    ⟨id, name, since.join, doc.join, request, response, events.getD []⟩

def read : Reader MethodDecl
  | .object entries => ofEntries entries
  | .array items => ofParts items
  | found => .error (.wrongType found record)

def toJson (method : MethodDecl) : Json :=
  Json.ofEntries <|
    [("id", .int method.id.toNat), ("name", .string method.name)] ++
    (method.since.map fun since => ("since", Json.string since)).toList ++
    (method.doc.map fun doc => ("doc", Json.string doc)).toList ++
    [("request", method.request.toJson), ("response", method.response.toJson),
      ("events", .array (method.events.map MessageDecl.toJson))]

end MethodDecl

namespace CustomTypeDecl

def record : Expected := .record "CustomTypeDef" 3

def ofEntries (entries : List (String × Json)) : Except DocumentError CustomTypeDecl := do
  let (fields, name) ← readFieldList entries (list FieldDecl.read) (entryAt? entries "name" text)
  let since ← entryAt? entries "since" (optional text)
  return ⟨← required "name" name, since.join, fields⟩

def ofParts (items : List Json) : Except DocumentError CustomTypeDecl := do
  let name ← requiredPart record 0 items text
  let since ← part? items 1 (optional text)
  let fields ← part? items 2 (list FieldDecl.read)
  noFurtherParts items 3 ⟨name, since.join, fields.getD []⟩

def read : Reader CustomTypeDecl
  | .object entries => ofEntries entries
  | .array items => ofParts items
  | found => .error (.wrongType found record)

def toJson (type : CustomTypeDecl) : Json :=
  Json.ofEntries <|
    [("name", .string type.name)] ++
    (type.since.map fun since => ("since", Json.string since)).toList ++
    [("fields", .array (type.fields.map FieldDecl.toJson))]

end CustomTypeDecl

namespace ServiceDecl

def record : Expected := .record "ServiceDef" 4

def ofEntries (entries : List (String × Json)) : Except DocumentError ServiceDecl := do
  let customTypes ← entryAt? entries "customTypes" (list CustomTypeDecl.read)
  let id ← entryAt? entries "id" byte
  let methods ← entryAt? entries "methods" (list MethodDecl.read)
  let name ← entryAt? entries "name" text
  return {
    id := ← required "id" id
    name := ← required "name" name
    methods := methods.getD []
    customTypes := customTypes.getD [] }

def ofParts (items : List Json) : Except DocumentError ServiceDecl := do
  let id ← requiredPart record 0 items byte
  let name ← requiredPart record 1 items text
  let methods ← part? items 2 (list MethodDecl.read)
  let customTypes ← part? items 3 (list CustomTypeDecl.read)
  noFurtherParts items 4 ⟨id, name, methods.getD [], customTypes.getD []⟩

def read : Reader ServiceDecl
  | .object entries => ofEntries entries
  | .array items => ofParts items
  | found => .error (.wrongType found record)

def toJson (service : ServiceDecl) : Json :=
  Json.ofEntries [
    ("id", .int service.id.toNat), ("name", .string service.name),
    ("methods", .array (service.methods.map MethodDecl.toJson)),
    ("customTypes", .array (service.customTypes.map CustomTypeDecl.toJson))]

end ServiceDecl

end WireCodecs
