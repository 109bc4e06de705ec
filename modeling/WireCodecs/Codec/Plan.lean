import WireCodecs.Service
import WireCodecs.Target.MappingSet

/-! Planning a message: each field's mapping for one direction, and whether the field goes into the
fixed part of the message, at an offset, or into frames of its own. A field goes into the fixed part
exactly if its type has a width. Where the operation of the mapping says otherwise, the type counts
as unmapped. -/

namespace WireCodecs

/-- Separates the fields whose type has a width from the others, in order. -/
def TypeTable.partitionFields (table : TypeTable) (fields : List Field) :
    List Field × List Field :=
  fields.partition fun field => (field.type.fixedWidth? table).isSome

structure PlannedField where
  field : Field
  /-- The name of the field as a parameter. -/
  parameter : String
  mapping : TypeMapping
  deriving DecidableEq, Repr

namespace PlannedField

def op (planned : PlannedField) : Operation := planned.mapping.op

def isFixed (planned : PlannedField) : Bool := planned.op.isFixed

/-- The bytes that the field takes in the fixed part. -/
def size (planned : PlannedField) : Nat := planned.op.size?.getD 0

def nullable (planned : PlannedField) : Bool := planned.field.nullable

end PlannedField

/-- The fields of a message in the order of their declaration. -/
structure Plan where
  fields : List PlannedField
  deriving DecidableEq, Repr

namespace Plan

def fixed (plan : Plan) : List PlannedField := plan.fields.filter (·.isFixed)

def framed (plan : Plan) : List PlannedField := plan.fields.filter (!·.isFixed)

/-- The positions of the fields that satisfy `p`. -/
def indexesWhere (p : PlannedField → Bool) (plan : Plan) : List Nat :=
  (plan.fields.zipIdx.filter fun entry => p entry.1).map (·.2)

def fixedIndexes (plan : Plan) : List Nat := plan.indexesWhere (·.isFixed)

def framedIndexes (plan : Plan) : List Nat := plan.indexesWhere (!·.isFixed)

/-- The length of the fixed part, as a machine word of 64 bits has it: a sum that does not fit
starts again from zero. -/
def fixedSize (plan : Plan) : Nat := (plan.fixed.map (·.size)).foldr (· + ·) 0 % UInt64.size

def parameters (plan : Plan) : List String := plan.fields.map (·.parameter)

end Plan

/-- The plans of one field list for both directions. -/
structure Plans where
  encode : Plan
  decode : Plan
  deriving DecidableEq, Repr

/-- An event with its plans and the name that the generated code has for it. -/
structure PlannedEvent where
  label : String
  id : MessageId
  plans : Plans
  deriving DecidableEq, Repr

/-- What rendering may look at besides the artifact. -/
structure RenderScope where
  set : MappingSet
  types : TypeScope
  namespaceName : String

namespace RenderScope

def planField (scope : RenderScope) (direction : Direction) (field : Field) :
    Except Unmapped PlannedField := do
  let mapping ← scope.set.mapping? direction scope.types field.type
  if (field.type.fixedWidth? scope.types.table).isSome = mapping.op.isFixed then
    return ⟨field, scope.set.parameter field.name, mapping⟩
  else throw (.ofType field.type)

def plan (scope : RenderScope) (direction : Direction) (fields : List Field) :
    Except Unmapped Plan := do
  return ⟨← fields.mapM (scope.planField direction)⟩

def plans (scope : RenderScope) (fields : List Field) : Except Unmapped Plans := do
  let encode ← scope.plan .encode fields
  let decode ← scope.plan .decode fields
  return ⟨encode, decode⟩

/-- The declared name of an event, or its index if it has none. -/
def eventLabel (index : Nat) (event : Message) : String :=
  match event.name with
  | some name => Naming.capital name
  | none => "Event" ++ toString index

/-- Plans the events of a method, of which the first has the given index. -/
def planEvents (scope : RenderScope) : Nat → List Message → Except Unmapped (List PlannedEvent)
  | _, [] => .ok []
  | index, event :: rest => do
    let plans ← scope.plans event.fields
    return ⟨eventLabel index event, event.id, plans⟩ :: (← planEvents scope (index + 1) rest)

end RenderScope

end WireCodecs
