import WireCodecs.Codec.Rendering
import WireCodecs.Proofs.Target.Widths
import WireCodecs.Target.Cpp

/-! What the C++ codecs refer to. A type has a mapping exactly if it has no raw data and no nullable
list in it, at any depth, and only custom types that are declared; and an artifact is rendered
exactly if all types that its codec needs have mappings. -/

namespace WireCodecs

/-- The custom types in a type, at any depth. -/
def TypeName.customNames : TypeName → List String
  | .primitive _ => []
  | .custom name => [name]
  | .list item | .nullableList item => item.customNames
  | .map key value | .entryList key value => key.customNames ++ value.customNames
  | .enum base _ => base.customNames

namespace Cpp

/-- Whether a type has a mapping when the given custom types are declared. -/
def Mappable (customTypes : List String) : TypeName → Prop
  | .primitive name => (primitives.lookup name).isSome
  | .custom name => name ∈ customTypes
  | .nullableList _ => False
  | .list item => Mappable customTypes item
  | .map key value | .entryList key value => Mappable customTypes key ∧ Mappable customTypes value
  | .enum base _ => Mappable customTypes base

theorem exists_valueType_iff {customTypes : List String} {type : TypeName} :
    (∃ value, valueType customTypes type = .ok value) ↔ Mappable customTypes type := by
  induction type with
  | primitive name => cases h : primitives.lookup name <;> simp [valueType, Mappable, h]
  | custom name => by_cases h : name ∈ customTypes <;> simp [valueType, Mappable, h]
  | nullableList item => simp [valueType, Mappable]
  | list item ih => simp only [valueType, Mappable, ← ih, exists_bind_iff, exists_pure, and_true]
  | map key value ihKey ihValue | entryList key value ihKey ihValue =>
    simp only [valueType, Mappable, ← ihKey, ← ihValue, exists_bind_iff, exists_pure, and_true,
      exists_and_right]
  | enum base name ih => simpa only [valueType, Mappable] using ih

theorem Mappable.mem_of_mem_customNames {customTypes : List String} {type : TypeName}
    (h : Mappable customTypes type) {name : String} (hname : name ∈ type.customNames) :
    name ∈ customTypes := by
  induction type with
  | primitive => cases hname
  | custom other => rwa [List.mem_singleton.mp hname]
  | nullableList item => cases h
  | list item ih => exact ih h hname
  | map key value ihKey ihValue | entryList key value ihKey ihValue =>
    rcases List.mem_append.mp hname with hname | hname
    · exact ihKey h.1 hname
    · exact ihValue h.2 hname
  | enum base _ ih => exact ih h hname

variable {scope : RenderScope} {direction : Direction}

theorem exists_mapping_iff (direction : Direction) {types : TypeScope} {type : TypeName} :
    (∃ mapping, Cpp.mapping direction types type = .ok mapping) ↔
      Mappable types.customTypes type := by
  rw [← exists_valueType_iff]
  cases direction <;> simp only [mapping, exists_bind_iff, exists_pure, and_true]

/-- The place of a value is decided by the width of its type, so a plan fails only for want of a
mapping. -/
theorem exists_planField_iff (hset : scope.set = mappingSet) {field : Field} :
    (∃ planned, scope.planField direction field = .ok planned) ↔
      Mappable scope.types.customTypes field.type := by
  rw [← exists_mapping_iff direction, RenderScope.planField, hset, exists_bind_iff]
  refine exists_congr fun mapping => and_iff_left_of_imp fun hmapping => ?_
  rw [if_pos]
  · exact exists_pure _
  · rw [Operation.isFixed_eq_isSome, size?_of_mapping hmapping]

theorem exists_plan_iff (hset : scope.set = mappingSet) {fields : List Field} :
    (∃ plan, scope.plan direction fields = .ok plan) ↔
      ∀ field ∈ fields, Mappable scope.types.customTypes field.type := by
  simp only [RenderScope.plan, exists_bind_iff, exists_pure, and_true, exists_mapM_iff,
    exists_planField_iff hset]

theorem exists_plans_iff (hset : scope.set = mappingSet) {fields : List Field} :
    (∃ plans, scope.plans fields = .ok plans) ↔
      ∀ field ∈ fields, Mappable scope.types.customTypes field.type := by
  simp only [RenderScope.plans, exists_bind_iff, exists_pure, and_true, exists_and_right,
    exists_plan_iff hset, and_self]

theorem exists_planEvents_iff (hset : scope.set = mappingSet) {events : List Message}
    (index : Nat) :
    (∃ planned, scope.planEvents index events = .ok planned) ↔
      ∀ event ∈ events, ∀ field ∈ event.fields, Mappable scope.types.customTypes field.type := by
  induction events generalizing index with
  | nil => simp [RenderScope.planEvents]
  | cons event rest ih =>
    simp only [RenderScope.planEvents, exists_bind_iff, exists_pure, and_true, exists_and_right,
      exists_plans_iff hset, ih, List.forall_mem_cons]

/-- The fields that the C++ codec of a method handles: those of the request and of the events. -/
def codecFields (method : Method) : List Field :=
  method.request.fields ++ method.events.flatMap (·.fields)

theorem exists_planMethod_iff (hset : scope.set = mappingSet) {method : Method} :
    (∃ plan, planMethod scope method = .ok plan) ↔
      ∀ field ∈ codecFields method, Mappable scope.types.customTypes field.type := by
  simp only [planMethod, exists_bind_iff, exists_pure, and_true, exists_and_right,
    exists_plans_iff hset, exists_planEvents_iff hset, codecFields, List.forall_mem_append,
    List.forall_mem_flatMap]

section Rendering

theorem exists_rendered_iff {result : Except Unmapped String} :
    (∃ text, (.ok (.ofResult result) : Except RenderError Rendering) = .ok (.rendered text)) ↔
      ∃ text, result = .ok text := by
  cases result <;> simp [Rendering.ofResult]

/-- Both parts of a method are rendered exactly if the types of its request and events have
mappings. -/
theorem method_rendered_iff (hset : scope.set = mappingSet) (service : String) (method : Method) :
    ((∃ header, scope.engine .methodHeader (.method service method) = .ok (.rendered header)) ∧
      ∃ source, scope.engine .methodSource (.method service method) = .ok (.rendered source)) ↔
      ∀ field ∈ codecFields method, Mappable scope.types.customTypes field.type := by
  have hlanguage : scope.set.language = .cpp := by rw [hset]; rfl
  simp only [RenderScope.engine, hlanguage, exists_rendered_iff, methodHeader, methodSource,
    exists_bind_iff, exists_pure, and_true, exists_planMethod_iff hset, and_self]

/-- Both files of a custom type are rendered exactly if the types of its fields have mappings. -/
theorem customType_rendered_iff (hset : scope.set = mappingSet) (type : CustomType) :
    ((∃ header, scope.engine .customHeader (.customType type) = .ok (.rendered header)) ∧
      ∃ source, scope.engine .customSource (.customType type) = .ok (.rendered source)) ↔
      ∀ field ∈ type.fields, Mappable scope.types.customTypes field.type := by
  have hlanguage : scope.set.language = .cpp := by rw [hset]; rfl
  simp only [RenderScope.engine, hlanguage, exists_rendered_iff, customHeader, customSource,
    exists_bind_iff, exists_pure, and_true, exists_plan_iff hset, exists_plans_iff hset, and_self]

end Rendering

end Cpp

end WireCodecs
