import WireCodecs.Service
import WireCodecs.Service.Declaration
import WireCodecs.TypeName.Parser

/-! Resolving declared services. Ids must be distinct, among services and among the methods of one
service; then every type name is read and every message identifier derived. The result is sorted by
id, so it does not depend on the order in which documents or methods are listed. -/

namespace WireCodecs

inductive ResolutionError where
  | duplicateService (id : UInt8) (first second : String)
  | duplicateMethod (service : String) (id : UInt8) (first second : String)
  | tooManyEvents (method : String) (count : Nat)
  /-- The type of the field named by `context` is malformed. -/
  | malformedType (context : String) (cause : TypeName.ParseError)
  deriving DecidableEq, Repr

def ResolutionError.message : ResolutionError → String
  | duplicateService id first second =>
    "Duplicate service id " ++ toString id.toNat ++ ": '" ++ first ++ "' and '" ++ second ++ "'"
  | duplicateMethod service id first second =>
    "Duplicate method id " ++ toString id.toNat ++ " in service '" ++ service ++ "': '" ++ first ++
      "' and '" ++ second ++ "'"
  | tooManyEvents method count =>
    "Method '" ++ method ++ "' declares " ++ toString count ++
      " events; at most 254 fit in the role byte"
  | malformedType context cause => "Malformed type in " ++ context ++ ": " ++ cause.message

namespace Resolution

/-- The first element whose id an earlier one has, with that earlier one; `seen` holds the elements
before the list. -/
def firstRepeat? {α : Type} (id : α → UInt8) (seen : List α) : List α → Option (α × α)
  | [] => none
  | x :: rest =>
    match seen.find? fun y => id y == id x with
    | some y => some (y, x)
    | none => firstRepeat? id (x :: seen) rest

def sortById {α : Type} (id : α → UInt8) (items : List α) : List α :=
  items.mergeSort fun x y => decide (id x ≤ id y)

def field (table : TypeTable) (context : String) (decl : FieldDecl) :
    Except ResolutionError Field :=
  match TypeName.parse table decl.typeName with
  | .ok type => .ok ⟨decl.name, type, decl.nullable, decl.since, decl.doc⟩
  | .error cause => .error (.malformedType (context ++ "." ++ decl.name) cause)

def message (table : TypeTable) (context : String) (id : MessageId) (decl : MessageDecl) :
    Except ResolutionError Message := do
  return ⟨id, decl.name, ← decl.fields.mapM (field table context)⟩

/-- The events from `index` on; `count` is the number of all events of the method. -/
def events (table : TypeTable) (context : String) (service method : UInt8) (count : Nat) :
    (index : Nat) → List MessageDecl → Except ResolutionError (List Message)
  | _, [] => .ok []
  | index, decl :: decls =>
    match Role.event? index with
    | none => .error (.tooManyEvents context count)
    | some role => do
      let event ← message table context (.derive service method role) decl
      return event :: (← events table context service method count (index + 1) decls)

def method (table : TypeTable) (service : ServiceDecl) (decl : MethodDecl) :
    Except ResolutionError Method := do
  let context := service.name ++ "." ++ decl.name
  let events ← events table context service.id decl.id decl.events.length 0 decl.events
  let request ← message table context (.derive service.id decl.id .request) decl.request
  let response ← message table context (.derive service.id decl.id .response) decl.response
  return ⟨decl.id, decl.name, decl.since, decl.doc, request, response, events⟩

def customType (table : TypeTable) (decl : CustomTypeDecl) : Except ResolutionError CustomType := do
  return ⟨decl.name, decl.since, ← decl.fields.mapM (field table decl.name)⟩

def service (table : TypeTable) (decl : ServiceDecl) : Except ResolutionError Service := do
  if let some (first, second) := firstRepeat? (·.id) [] decl.methods then
    throw (.duplicateMethod decl.name second.id first.name second.name)
  let methods ← decl.methods.mapM (method table decl)
  let customTypes ← decl.customTypes.mapM (customType table)
  return ⟨decl.id, decl.name, sortById (·.id) methods, customTypes⟩

end Resolution

/-- Resolves all services of a run. -/
def resolve (table : TypeTable) (decls : List ServiceDecl) :
    Except ResolutionError (List Service) := do
  if let some (first, second) := Resolution.firstRepeat? (·.id) [] decls then
    throw (.duplicateService second.id first.name second.name)
  let services ← decls.mapM (Resolution.service table)
  return Resolution.sortById (·.id) services

end WireCodecs
