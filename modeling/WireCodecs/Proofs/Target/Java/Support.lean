import WireCodecs.Proofs.Target.Java.Containers

/-! Which types Java supports. A container needs a spelling for each of its elements, and unless its
shape is fixed a reference to the codec of each. A primitive of fixed width is spelled in its boxed
form but has no codec to refer to, so it is an element of fixed shapes only; and a codec with
references of its own is not referred to either. -/

namespace WireCodecs.Java

/-- A primitive with a boxed spelling, whether or not the table has a size for it. -/
def IsFixedPrimitive : TypeName → Prop
  | .primitive name => (fixedPrimitives.lookup name).isSome
  | _ => False

/-- Whether the codec of a type that has one frames its values and takes no references. -/
def HasPlainCodec (table : TypeTable) : TypeName → Prop
  | .primitive name => (framedPrimitives.lookup name).isSome
  | .custom _ => True
  | .enum base _ => HasPlainCodec table base
  | type => type.extent table = .fixed

/-- Whether a container can hold an element, which by itself may be supported. -/
def CanHold (table : TypeTable) (container element : TypeName) (supported : Prop) : Prop :=
  (IsFixedPrimitive element ∨ supported) ∧
    (container.extent table = .fixed ∨ supported ∧ HasPlainCodec table element)

def Supported (table : TypeTable) (type : TypeName) : Prop :=
  match type with
  | .primitive name =>
    (fixedPrimitives.lookup name).isSome ∧ (table.fixedSize? name).isSome ∨
      (framedPrimitives.lookup name).isSome
  | .custom _ => True
  | .enum base _ => Supported table base
  | .list item | .nullableList item => CanHold table type item (Supported table item)
  | .map key value | .entryList key value =>
    CanHold table type key (Supported table key) ∧ CanHold table type value (Supported table value)

section Decidability

instance : DecidablePred IsFixedPrimitive
  | .primitive name => inferInstanceAs (Decidable (fixedPrimitives.lookup name).isSome)
  | .custom _ | .list _ | .nullableList _ | .map _ _ | .entryList _ _ | .enum _ _ => .isFalse id

instance decidableHasPlainCodec (table : TypeTable) : DecidablePred (HasPlainCodec table)
  | .primitive name => inferInstanceAs (Decidable (framedPrimitives.lookup name).isSome)
  | .custom _ => .isTrue trivial
  | .enum base _ => decidableHasPlainCodec table base
  | .list _ | .nullableList _ | .map _ _ | .entryList _ _ =>
    inferInstanceAs (Decidable (TypeName.extent _ _ = _))

instance (table : TypeTable) (container element : TypeName) (supported : Prop)
    [Decidable supported] : Decidable (CanHold table container element supported) :=
  inferInstanceAs (Decidable (_ ∧ _))

instance decidableSupported (table : TypeTable) : DecidablePred (Supported table)
  | .primitive _ => inferInstanceAs (Decidable (_ ∧ _ ∨ _))
  | .custom _ => .isTrue trivial
  | .enum base _ => decidableSupported table base
  | .list item | .nullableList item =>
    have := decidableSupported table item
    inferInstanceAs (Decidable (CanHold _ _ _ _))
  | .map key value | .entryList key value =>
    have := decidableSupported table key
    have := decidableSupported table value
    inferInstanceAs (Decidable (CanHold _ _ _ _ ∧ CanHold _ _ _ _))

end Decidability

variable {direction : Direction} {scope : TypeScope} {table : TypeTable} {type : TypeName}

/-- The elements of a container each have a spelling, and the shape is fixed or they each have a
plain codec. -/
theorem supported_container_iff (h : type.isContainer) :
    Supported table type ↔
      (∀ element ∈ type.elements, IsFixedPrimitive element ∨ Supported table element) ∧
      (type.extent table = .fixed ∨
        ∀ element ∈ type.elements, Supported table element ∧ HasPlainCodec table element) := by
  cases type with
  | primitive _ | custom _ | enum _ _ => cases h
  | list _ | nullableList _ => simp [Supported, CanHold, TypeName.elements]
  | map _ _ | entryList _ _ =>
    simp only [Supported, CanHold, TypeName.elements, List.forall_mem_cons, List.not_mem_nil,
      false_implies, implies_true, and_true, or_and_left]
    exact and_and_and_comm

theorem hasPlainCodec_container_iff (h : type.isContainer) :
    HasPlainCodec table type ↔ type.extent table = .fixed := by
  cases type with
  | primitive _ | custom _ | enum _ _ => cases h
  | list _ | nullableList _ | map _ _ | entryList _ _ => rfl

section Elements

variable {element : TypeName} {elementMapping : Except Unmapped TypeMapping} {unmapped : Unmapped}

/-- An element's own spelling is taken unless it is a primitive with a boxed one. -/
theorem elementSpelling_cases (element : TypeName) (elementMapping : Except Unmapped TypeMapping) :
    (IsFixedPrimitive element ∧
        ∃ spelling, elementSpelling element elementMapping = .ok spelling) ∨
      (¬IsFixedPrimitive element ∧
        elementSpelling element elementMapping = (·.spelling) <$> elementMapping) := by
  cases element with
  | primitive name =>
    rw [elementSpelling, IsFixedPrimitive]
    cases fixedPrimitives.lookup name <;> simp
  | _ => simp [elementSpelling, IsFixedPrimitive]

theorem exists_elementSpelling_iff :
    (∃ spelling, elementSpelling element elementMapping = .ok spelling) ↔
      IsFixedPrimitive element ∨ ∃ mapping, elementMapping = .ok mapping := by
  obtain ⟨hfixed, hspelling⟩ | ⟨hfixed, hspelling⟩ := elementSpelling_cases element elementMapping
  · simp [hfixed, hspelling]
  · simp [hfixed, hspelling, map_eq_ok_iff]

theorem eq_error_of_elementSpelling (h : elementSpelling element elementMapping = .error unmapped) :
    elementMapping = .error unmapped := by
  obtain ⟨-, spelling, hspelling⟩ | ⟨-, hspelling⟩ := elementSpelling_cases element elementMapping
  · rw [hspelling] at h
    cases h
  · rw [hspelling] at h
    cases elementMapping with
    | ok mapping => cases h
    | error other =>
      cases h
      rfl

/-- What a reference asks of the operation of an element. -/
def IsReferable (op : Operation) : Prop := op.isFixed = false ∧ op.extraArgs = []

theorem exists_elementReference_iff :
    (∃ reference, elementReference element elementMapping = .ok reference) ↔
      ∃ mapping, elementMapping = .ok mapping ∧ IsReferable mapping.op := by
  cases elementMapping with
  | error other => simp [elementReference]
  | ok mapping =>
    simp only [elementReference, IsReferable, Bool.and_eq_true, Bool.not_eq_true',
      List.isEmpty_iff, Except.ok.injEq, exists_eq_left']
    split <;> simp [*]

theorem eq_or_eq_error_of_elementReference
    (h : elementReference element elementMapping = .error unmapped) :
    unmapped = .ofType element ∨ elementMapping = .error unmapped := by
  cases elementMapping with
  | error other =>
    cases h
    exact .inr rfl
  | ok mapping =>
    rw [elementReference] at h
    split at h
    · cases h
    · exact .inl (Except.error.inj h).symm

theorem exists_containerMapping_iff {spelling codec verb : String}
    {references : Except Unmapped (List String)} :
    (∃ mapping,
        containerMapping direction scope type spelling codec verb references = .ok mapping) ↔
      type.extent scope.table = .fixed ∨ ∃ arguments, references = .ok arguments := by
  rw [containerMapping]
  split
  · next hfixed => simp [hfixed]
  · next hvariable => simp only [exists_bind_iff, exists_pure, and_true, hvariable, false_or]

end Elements

theorem framedPrimitives_lookup_of_fixed {name : String}
    (h : (fixedPrimitives.lookup name).isSome) : framedPrimitives.lookup name = none := by
  have hall : ∀ entry ∈ fixedPrimitives, framedPrimitives.lookup entry.1 = none := by decide
  obtain ⟨primitive, hlookup⟩ := Option.isSome_iff_exists.mp h
  exact hall (name, primitive) (mem_of_lookup hlookup)

theorem exists_primitiveMapping_iff {name : String} :
    (∃ mapping, primitiveMapping direction table name = .ok mapping) ↔
      Supported table (.primitive name) := by
  rw [primitiveMapping, Supported]
  split
  · next primitive hfixed =>
    have hframed : framedPrimitives.lookup name = none :=
      framedPrimitives_lookup_of_fixed (by simp [hfixed])
    cases hsize : table.fixedSize? name <;> simp [hfixed, hframed]
  · next hfixed hframed => simp [hfixed, hframed]
  · next hfixed hframed => simp [hfixed, hframed]

/-- A container without a fixed shape has at least one reference, so it is not referred to itself.
-/
theorem isReferable_container_iff {mapping : TypeMapping} (htype : type.isContainer)
    (h : Java.mapping direction scope type = .ok mapping) :
    IsReferable mapping.op ↔ HasPlainCodec scope.table type := by
  rw [mapping_of_isContainer direction scope htype] at h
  obtain ⟨spellings, -, h⟩ := bind_eq_ok_iff.mp h
  rw [hasPlainCodec_container_iff htype]
  rw [containerMapping] at h
  split at h
  · next hfixed =>
    cases h
    simp [IsReferable, framed, Operation.isFixed, hfixed]
  · next hvariable =>
    obtain ⟨references, hreferences, h⟩ := bind_eq_ok_iff.mp h
    have hlength : type.elements.length = references.length :=
      (mapM_eq_ok_iff.mp hreferences).length_eq
    have hne : references ≠ [] := by
      rintro rfl
      exact TypeName.elements_ne_nil htype (List.length_eq_zero_iff.mp hlength)
    rw [pure_eq_ok_iff.mp h]
    simp [IsReferable, framed, hne, hvariable]

/-- Of the types that have a mapping, those with a plain codec are the ones that containers can
refer to. -/
theorem isReferable_iff {mapping : TypeMapping}
    (h : Java.mapping direction scope type = .ok mapping) :
    IsReferable mapping.op ↔ HasPlainCodec scope.table type := by
  induction type using TypeName.elementInduction generalizing mapping with
  | primitive name =>
    rw [Java.mapping, primitiveMapping] at h
    split at h
    · next primitive hfixed =>
      have hframed : framedPrimitives.lookup name = none :=
        framedPrimitives_lookup_of_fixed (by simp [hfixed])
      split at h
      · cases h
        simp [IsReferable, Operation.isFixed, HasPlainCodec, hframed]
      · cases h
    · next hframed =>
      cases h
      simp [IsReferable, framed, Operation.isFixed, HasPlainCodec, hframed]
    · cases h
  | custom name =>
    cases h
    simp [IsReferable, framed, Operation.isFixed, HasPlainCodec]
  | enum base name ih =>
    obtain ⟨inner, hinner, h⟩ := bind_eq_ok_iff.mp h
    have hop : mapping.op = inner.op := by rw [pure_eq_ok_iff.mp h]
    rw [hop]
    exact ih hinner
  | container type htype _ => exact isReferable_container_iff htype h

/-- The induction follows the type: the mapping of a container depends on those of its elements. -/
theorem exists_mapping_iff (direction : Direction) (scope : TypeScope) (type : TypeName) :
    (∃ mapping, Java.mapping direction scope type = .ok mapping) ↔ Supported scope.table type := by
  induction type using TypeName.elementInduction with
  | primitive name => exact exists_primitiveMapping_iff
  | custom name => simp [mapping, Supported]
  | enum base name ih =>
    simp only [mapping, Supported, exists_bind_iff, exists_pure, and_true, ih]
  | container type htype ih =>
    have hspelled : ∀ element ∈ type.elements,
        (∃ spelling, elementSpelling element (mapping direction scope element) = .ok spelling) ↔
          IsFixedPrimitive element ∨ Supported scope.table element := by
      intro element helement
      rw [exists_elementSpelling_iff, ih element helement]
    have hreferred : ∀ element ∈ type.elements,
        (∃ reference, elementReference element (mapping direction scope element) = .ok reference) ↔
          Supported scope.table element ∧ HasPlainCodec scope.table element := by
      intro element helement
      rw [exists_elementReference_iff, ← ih element helement, ← exists_and_right]
      exact exists_congr fun mapping => and_congr_right isReferable_iff
    rw [mapping_of_isContainer direction scope htype, supported_container_iff htype]
    simp only [exists_bind_iff, exists_containerMapping_iff, exists_and_right, exists_mapM_iff]
    rw [forall₂_congr hspelled, forall₂_congr hreferred]

theorem exists_element_of_mapping_error {unmapped : Unmapped} (htype : type.isContainer)
    (h : mapping direction scope type = .error unmapped) :
    ∃ element ∈ type.elements,
      unmapped = .ofType element ∨ mapping direction scope element = .error unmapped := by
  rw [mapping_of_isContainer direction scope htype, bind_eq_error_iff] at h
  obtain hspellings | ⟨spellings, -, h⟩ := h
  · obtain ⟨element, helement, hspelling⟩ := exists_mem_of_mapM_error hspellings
    exact ⟨element, helement, .inr (eq_error_of_elementSpelling hspelling)⟩
  rw [containerMapping] at h
  split at h
  · cases h
  obtain hreferences | ⟨references, -, h⟩ := bind_eq_error_iff.mp h
  · obtain ⟨element, helement, hreference⟩ := exists_mem_of_mapM_error hreferences
    exact ⟨element, helement, eq_or_eq_error_of_elementReference hreference⟩
  · cases h

/-- An error names the type or one of the types in it. -/
theorem exists_part_of_mapping_error {unmapped : Unmapped}
    (h : mapping direction scope type = .error unmapped) :
    ∃ part ∈ type.parts, unmapped = .ofType part := by
  induction type using TypeName.elementInduction with
  | primitive name =>
    refine ⟨_, TypeName.self_mem_parts _, ?_⟩
    rw [mapping, primitiveMapping] at h
    split at h
    · split at h
      · cases h
      · exact (Except.error.inj h).symm
    · cases h
    · exact (Except.error.inj h).symm
  | custom name => cases h
  | enum base name ih =>
    obtain hbase | ⟨inner, -, h⟩ := bind_eq_error_iff.mp h
    · obtain ⟨part, hpart, hunmapped⟩ := ih hbase
      exact ⟨part, List.mem_cons_of_mem _ hpart, hunmapped⟩
    · cases h
  | container type htype ih =>
    obtain ⟨element, helement, hself | herror⟩ := exists_element_of_mapping_error htype h
    · exact ⟨element, TypeName.parts_subset_of_mem_elements helement element.self_mem_parts, hself⟩
    · obtain ⟨part, hpart, hunmapped⟩ := ih element helement herror
      exact ⟨part, TypeName.parts_subset_of_mem_elements helement hpart, hunmapped⟩

/-- Java has a mapping for exactly the supported types. A container that is mapped without a fixed
shape holds no value that is coded at an offset, and no container like itself. A type without a
mapping is reported by one of its parts. -/
theorem maps_supported_types (direction : Direction) (scope : TypeScope) (type : TypeName) :
    ((∃ mapping, Java.mapping direction scope type = .ok mapping) ↔ Supported scope.table type) ∧
    (Supported scope.table type → type.isContainer → type.extent scope.table = .variable →
      ∀ element ∈ type.elements,
        (∃ mapping, Java.mapping direction scope element = .ok mapping ∧
          mapping.op.isFixed = false) ∧
        ¬(element.isContainer ∧ element.extent scope.table = .variable)) ∧
    ∀ unmapped, mapping direction scope type = .error unmapped →
      ∃ part ∈ type.parts, unmapped = .ofType part := by
  refine ⟨exists_mapping_iff direction scope type, ?_, fun unmapped => exists_part_of_mapping_error⟩
  intro hsupported htype hvariable element helement
  have hplain : Supported scope.table element ∧ HasPlainCodec scope.table element := by
    rcases ((supported_container_iff htype).mp hsupported).2 with hfixed | helements
    · rw [hvariable] at hfixed
      cases hfixed
    · exact helements element helement
  obtain ⟨mapping, hmapping⟩ := (exists_mapping_iff direction scope element).mpr hplain.1
  refine ⟨⟨mapping, hmapping, ((isReferable_iff hmapping).mpr hplain.2).1⟩, ?_⟩
  rintro ⟨hcontainer, hextent⟩
  rw [(hasPlainCodec_container_iff hcontainer).mp hplain.2] at hextent
  cases hextent

/-- A list in a map has a codec to refer to if its shape is fixed, here a list of identifiers, but a
list of texts has not. -/
theorem maps_supported_types_nested :
    let identifiers := TypeName.map (.primitive "String") (.list (.primitive "UUID"))
    let texts := TypeName.map (.primitive "UUID") (.list (.primitive "String"))
    let scope : TypeScope := ⟨.standard, []⟩
    (∃ mapping, Java.mapping .encode scope identifiers = .ok mapping) ∧
    (∃ mapping, Java.mapping .encode scope (.list (.primitive "UUID")) = .ok mapping ∧
      mapping.op.isFixed = false) ∧
    ∃ part ∈ texts.parts, Unmapped.mk "UUID" = .ofType part := by
  intro identifiers texts scope
  obtain ⟨hmapped, helements, -⟩ := maps_supported_types .encode scope identifiers
  obtain ⟨-, -, herror⟩ := maps_supported_types .encode scope texts
  have hsupported : Supported scope.table identifiers := by decide
  refine ⟨hmapped.mpr hsupported, ?_, herror ⟨"UUID"⟩ (by decide)⟩
  exact (helements hsupported rfl (by decide) (.list (.primitive "UUID"))
    (by simp [identifiers, TypeName.elements])).1

end WireCodecs.Java
