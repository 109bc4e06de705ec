import WireCodecs.Proofs.Codec.Planning
import WireCodecs.Proofs.Target.References
import WireCodecs.Proofs.TypeName.Parts
import WireCodecs.Run.Emission

/-! Which type a C++ codec is given up for. A type can be spelled unless one of its parts cannot,
and the first such part is reported. A plan adds nothing to that, as every operation takes its
value from the place that the width of the type asks for. So the two texts of a codec, though
planned one after the other, are rendered together or given up together and for one type: the first
in the fields of the codec. -/

namespace WireCodecs

namespace Cpp

/-- A part without a spelling, whatever it is made of. -/
def isMissing (customTypes : List String) : TypeName → Bool
  | .primitive name => (primitives.lookup name).isNone
  | .custom name => !customTypes.contains name
  | .nullableList _ => true
  | .list _ | .map _ _ | .entryList _ _ | .enum _ _ => false

/-- The parts of a type that have no spelling, in order. -/
def faults (customTypes : List String) (type : TypeName) : List Unmapped :=
  (type.parts.filter (isMissing customTypes)).map .ofType

/-- The first part of a type that has no spelling. -/
def fault? (customTypes : List String) (type : TypeName) : Option Unmapped :=
  (type.parts.find? (isMissing customTypes)).map .ofType

theorem head?_faults (customTypes : List String) (type : TypeName) :
    (faults customTypes type).head? = fault? customTypes type := by
  rw [faults, List.head?_map, List.head?_filter, fault?]

theorem faults_pair (customTypes : List String) {type key value : TypeName}
    (hparts : type.parts = type :: (key.parts ++ value.parts))
    (htype : isMissing customTypes type = false) :
    faults customTypes type = faults customTypes key ++ faults customTypes value := by
  simp [faults, hparts, htype]

/-- The parts of a type are looked at in order. -/
theorem failsFirst_valueType (customTypes : List String) (type : TypeName) :
    FailsFirst (faults customTypes type) (valueType customTypes type) := by
  induction type with
  | primitive name =>
    cases hlookup : primitives.lookup name <;>
      simp [FailsFirst, faults, TypeName.parts, isMissing, valueType, hlookup, Unmapped.ofType,
        TypeName.spelling]
  | custom name =>
    by_cases hdeclared : name ∈ customTypes <;>
      simp [FailsFirst, faults, TypeName.parts, isMissing, valueType, hdeclared, Unmapped.ofType,
        TypeName.spelling]
  | nullableList item => exact .error _ _
  | list item ih => exact ih.map _
  | map key value ihKey ihValue | entryList key value ihKey ihValue =>
    rw [faults_pair customTypes rfl rfl, valueType]
    exact ihKey.bind fun k _ => ihValue.map _
  | enum base name ih => exact ih

variable {customTypes : List String} {unmapped : Unmapped}

theorem valueType_eq_error_iff {type : TypeName} :
    valueType customTypes type = .error unmapped ↔ fault? customTypes type = some unmapped := by
  rw [failsFirst_valueType customTypes type unmapped, head?_faults]

theorem mapping_eq_error_iff {direction : Direction} {types : TypeScope} {type : TypeName} :
    mapping direction types type = .error unmapped ↔
      fault? types.customTypes type = some unmapped := by
  rw [mapping, bind_eq_error_iff, valueType_eq_error_iff, or_iff_left]
  rintro ⟨value, -, h⟩
  cases direction <;> cases h

variable {scope : RenderScope}

section Plans

/-- The place of a value is the one that its width asks for, so no mapping is refused. -/
theorem fault?_of_field (hset : scope.set = mappingSet) (direction : Direction) (field : Field) :
    scope.fault? direction field = fault? scope.types.customTypes field.type := by
  have hmapping? : scope.set.mapping? direction scope.types field.type =
      mapping direction scope.types field.type := by rw [hset]; rfl
  rw [RenderScope.fault?, hmapping?]
  cases hmapping : mapping direction scope.types field.type with
  | error unmapped => exact (mapping_eq_error_iff.mp hmapping).symm
  | ok mapping =>
    have hplace : (field.type.fixedWidth? scope.types.table).isSome = mapping.op.isFixed := by
      rw [Operation.isFixed_eq_isSome, size?_of_mapping hmapping]
    have hfault : ∀ unmapped, fault? scope.types.customTypes field.type ≠ some unmapped := by
      intro unmapped hunmapped
      have herror : Cpp.mapping direction scope.types field.type = .error unmapped :=
        mapping_eq_error_iff.mpr hunmapped
      rw [hmapping] at herror
      cases herror
    rw [Option.eq_none_iff_forall_ne_some.mpr hfault]
    exact if_pos hplace

/-- The faults of the fields of a message, at most one for each. -/
def fieldFaults (customTypes : List String) (fields : List Field) : List Unmapped :=
  fields.filterMap fun field => fault? customTypes field.type

theorem failsFirst_plan (hset : scope.set = mappingSet) (direction : Direction)
    (fields : List Field) :
    FailsFirst (fieldFaults scope.types.customTypes fields) (scope.plan direction fields) := by
  have hplan := scope.failsFirst_plan direction fields
  simp only [fault?_of_field hset] at hplan
  exact hplan

/-- Planning for the second direction fails where planning for the first one does. -/
theorem failsFirst_plans (hset : scope.set = mappingSet) (fields : List Field) :
    FailsFirst (fieldFaults scope.types.customTypes fields) (scope.plans fields) :=
  (failsFirst_plan hset .encode fields).bind_same fun _ =>
    (failsFirst_plan hset .decode fields).map _

theorem failsFirst_planEvents (hset : scope.set = mappingSet) (index : Nat)
    (events : List Message) :
    FailsFirst (fieldFaults scope.types.customTypes (events.flatMap (·.fields)))
      (scope.planEvents index events) := by
  induction events generalizing index with
  | nil => exact .ok []
  | cons event events ih =>
    rw [RenderScope.planEvents, List.flatMap_cons, fieldFaults, List.filterMap_append]
    exact (failsFirst_plans hset event.fields).bind fun plans _ => (ih (index + 1)).map _

theorem failsFirst_planMethod (hset : scope.set = mappingSet) (method : Method) :
    FailsFirst (fieldFaults scope.types.customTypes (codecFields method))
      (planMethod scope method) := by
  rw [planMethod, codecFields, fieldFaults, List.filterMap_append]
  exact (failsFirst_plans hset method.request.fields).bind fun request _ =>
    (failsFirst_planEvents hset 0 method.events).map _

end Plans

section Texts

/-- The two texts of a codec are both rendered, or both given up for the fault. -/
def RendersUnless (fault : Option Unmapped) (header source : Except RenderError Rendering) : Prop :=
  match fault with
  | none => (∃ text, header = .ok (.rendered text)) ∧ ∃ text, source = .ok (.rendered text)
  | some unmapped =>
    header = .ok (.unmapped unmapped.typeName) ∧ source = .ok (.unmapped unmapped.typeName)

theorem rendersUnless_of_failsFirst {faults : List Unmapped}
    {header source : Except Unmapped String}
    (hheader : FailsFirst faults header) (hsource : FailsFirst faults source) :
    RendersUnless faults.head? (.ok (.ofResult header)) (.ok (.ofResult source)) := by
  cases faults with
  | nil =>
    obtain ⟨headerText, rfl⟩ := hheader.exists_iff.mpr rfl
    obtain ⟨sourceText, rfl⟩ := hsource.exists_iff.mpr rfl
    exact ⟨⟨headerText, rfl⟩, ⟨sourceText, rfl⟩⟩
  | cons fault faults =>
    rw [(hheader fault).mpr rfl, (hsource fault).mpr rfl]
    exact ⟨rfl, rfl⟩

theorem customType_rendersUnless (hset : scope.set = mappingSet) (type : CustomType) :
    RendersUnless (fieldFaults scope.types.customTypes type.fields).head?
      (scope.engine .customHeader (.customType type))
      (scope.engine .customSource (.customType type)) := by
  have hlanguage : scope.set.language = .cpp := by rw [hset]; rfl
  simp only [RenderScope.engine, hlanguage]
  exact rendersUnless_of_failsFirst ((failsFirst_plan hset .encode type.fields).map _)
    ((failsFirst_plans hset type.fields).map _)

theorem method_rendersUnless (hset : scope.set = mappingSet) (service : String) (method : Method) :
    RendersUnless (fieldFaults scope.types.customTypes (codecFields method)).head?
      (scope.engine .methodHeader (.method service method))
      (scope.engine .methodSource (.method service method)) := by
  have hlanguage : scope.set.language = .cpp := by rw [hset]; rfl
  simp only [RenderScope.engine, hlanguage]
  exact rendersUnless_of_failsFirst ((failsFirst_planMethod hset method).map _)
    ((failsFirst_planMethod hset method).map _)

end Texts

end Cpp

namespace Emitter

/-- A pair of texts is written, or skipped for the fault. -/
def WritesUnless (emitter : Emitter) (header source : Template) (subject : Subject)
    (fault : Option Unmapped) : Prop :=
  match fault with
  | none => ∃ headerText sourceText, ∀ write, emitter.emitPair header source subject write = do
      let written ← write headerText sourceText
      return ⟨written, [subject.artifact], []⟩
  | some unmapped => ∀ write,
      emitter.emitPair header source subject write = skip subject.artifact unmapped.typeName

theorem writesUnless_of_rendersUnless {emitter : Emitter} {header source : Template}
    {subject : Subject} {fault : Option Unmapped}
    (h : Cpp.RendersUnless fault (emitter.engine header subject) (emitter.engine source subject)) :
    emitter.WritesUnless header source subject fault := by
  cases fault with
  | none =>
    obtain ⟨⟨headerText, hheader⟩, sourceText, hsource⟩ := h
    refine ⟨headerText, sourceText, fun write => ?_⟩
    rw [emitPair, render, render, hheader, hsource]
    rfl
  | some unmapped =>
    obtain ⟨hheader, hsource⟩ := h
    intro write
    rw [emitPair, render, render, hheader, hsource]
    rfl

end Emitter

namespace Cpp

/-- A type is given up for its first part without a spelling, and a list of fields for the first of
them with such a type. The header and the source of a custom type are rendered together or given up
together; so are those of a method, for a field of the request or of an event, whatever the response
has; and the emitter writes both texts or skips the codec. -/
theorem gives_up_for_first_fault (types : TypeScope) (namespaceName : String) :
    let scope : RenderScope := ⟨mappingSet, types, namespaceName⟩
    let firstFault? := fun fields : List Field =>
      fields.findSome? fun field => fault? types.customTypes field.type
    (∀ type unmapped, valueType types.customTypes type = .error unmapped ↔
      fault? types.customTypes type = some unmapped) ∧
    (∀ direction fields unmapped, scope.plan direction fields = .error unmapped ↔
      firstFault? fields = some unmapped) ∧
    (∀ type : CustomType, RendersUnless (firstFault? type.fields)
      (scope.engine .customHeader (.customType type))
      (scope.engine .customSource (.customType type))) ∧
    (∀ service method, RendersUnless (firstFault? (codecFields method))
      (scope.engine .methodHeader (.method service method))
      (scope.engine .methodSource (.method service method))) ∧
    ∀ emitter : Emitter, ∀ service method,
      { emitter with engine := scope.engine }.WritesUnless .methodHeader .methodSource
        (.method service method) (firstFault? (codecFields method)) := by
  intro scope firstFault?
  have hset : scope.set = mappingSet := rfl
  have hfirst (fields : List Field) :
      (fieldFaults types.customTypes fields).head? = firstFault? fields := List.head?_filterMap
  refine ⟨fun type unmapped => valueType_eq_error_iff, fun direction fields unmapped => ?_,
    fun type => ?_, fun service method => ?_, fun emitter service method => ?_⟩
  · rw [failsFirst_plan hset direction fields unmapped, hfirst]
  · exact hfirst type.fields ▸ customType_rendersUnless hset type
  · exact hfirst (codecFields method) ▸ method_rendersUnless hset service method
  · refine Emitter.writesUnless_of_rendersUnless ?_
    exact hfirst (codecFields method) ▸ method_rendersUnless hset service method

example : fault? ["Address"] (.map (.custom "Address") (.list (.nullableList (.custom "Person")))) =
    some ⟨"ListCN_Person"⟩ := by decide

end Cpp

end WireCodecs
