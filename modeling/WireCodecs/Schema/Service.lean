import WireCodecs.Schema

/-! The schema of service documents. A service has an id in a byte and a name; methods, custom
types, events and field lists may be null or left out; and no object has other members than those
named here. The field list of a message or custom type is under one of two keys, but not under
both. -/

namespace WireCodecs.ServiceSchema

def byteId : Schema :=
  .rules [.number .maximum (.int 255), .number .minimum (.int 0), .kinds [.integer]]

def identifier : Schema := .rules [.size .minLength 1, .kinds [.string]]

/-- Numbers with periods between them. -/
def versionPattern : Pattern :=
  let digits : Pattern := .repeated (.one (.between '0' '9')) 1 none false
  let further : Pattern := .repeated (.seq (.one (.single '.')) digits) 0 none false
  .seq (.edge .start) (.seq digits (.seq further (.edge .finish)))

def version : Schema := .rules [.pattern "^[0-9]+(\\.[0-9]+)*$" versionPattern, .kinds [.string]]

def text : Schema := .rules [.kinds [.string]]

/-- A list of values, or null. -/
def listOf (item : Schema) : Schema := .rules [.items item, .kinds [.array, .null]]

def field : Schema :=
  .rules [
    .closed [("doc", text), ("name", identifier), ("nullable", .rules [.kinds [.boolean]]),
      ("since", version), ("type", identifier)] [],
    .required ["name", "type"],
    .kinds [.object]]

def fields : Schema := listOf field

/-- At most one of the two keys of a field list is there. -/
def oneFieldList : Rule :=
  .not (.object [("required", .ofStrings ["fields", "params"])])
    (.rules [.required ["fields", "params"]])

def message : Schema :=
  .rules [
    .closed [("fields", fields), ("name", identifier), ("params", fields)] [],
    oneFieldList,
    .kinds [.object]]

def method : Schema :=
  .rules [
    .closed [("doc", text),
      ("events", .rules [.items message, .size .maxItems 254, .kinds [.array, .null]]),
      ("id", byteId), ("name", identifier), ("request", message), ("response", message),
      ("since", version)] [],
    .required ["id", "name", "request", "response"],
    .kinds [.object]]

def customType : Schema :=
  .rules [
    .closed [("fields", fields), ("name", identifier), ("params", fields), ("since", version)] [],
    oneFieldList,
    .required ["name"],
    .kinds [.object]]

def service : Schema :=
  .rules [
    .closed [("customTypes", listOf customType), ("id", byteId), ("methods", listOf method),
      ("name", identifier)] [],
    .required ["id", "name"],
    .kinds [.object]]

def set : SchemaSet := ⟨service, []⟩

end WireCodecs.ServiceSchema
