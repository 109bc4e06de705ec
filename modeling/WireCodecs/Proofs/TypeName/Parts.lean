import WireCodecs.TypeName

/-! The types in a type. A container holds one or two element types and an enumeration has a base;
together with the types in those they are the parts of the type. What is shown of a container from
its elements holds of all four kinds of containers alike. -/

namespace WireCodecs.TypeName

/-- The types that a container holds. -/
def elements : TypeName → List TypeName
  | list item | nullableList item => [item]
  | map key value | entryList key value => [key, value]
  | primitive _ | custom _ | enum _ _ => []

/-- A type and the types in it at any depth, each one before those in it, from left to right. -/
def parts : TypeName → List TypeName
  | primitive name => [primitive name]
  | custom name => [custom name]
  | list item => list item :: item.parts
  | nullableList item => nullableList item :: item.parts
  | map key value => map key value :: (key.parts ++ value.parts)
  | entryList key value => entryList key value :: (key.parts ++ value.parts)
  | enum base name => enum base name :: base.parts

@[elab_as_elim]
theorem elementInduction {motive : TypeName → Prop}
    (primitive : ∀ name, motive (primitive name)) (custom : ∀ name, motive (custom name))
    (enum : ∀ base name, motive base → motive (enum base name))
    (container : ∀ type : TypeName, type.isContainer →
      (∀ element ∈ type.elements, motive element) → motive type) (type : TypeName) :
    motive type := by
  induction type with
  | primitive name => exact primitive name
  | custom name => exact custom name
  | enum base name ih => exact enum base name ih
  | list item ih | nullableList item ih => exact container _ rfl (by simpa [elements] using ih)
  | map key value ihKey ihValue | entryList key value ihKey ihValue =>
    exact container _ rfl (by simpa [elements] using ⟨ihKey, ihValue⟩)

variable {type element : TypeName}

theorem parts_of_isContainer (h : type.isContainer) :
    type.parts = type :: type.elements.flatMap parts := by
  cases type with
  | primitive _ | custom _ | enum _ _ => cases h
  | list _ | nullableList _ | map _ _ | entryList _ _ => simp [parts, elements]

theorem self_mem_parts (type : TypeName) : type ∈ type.parts := by
  cases type <;> simp [parts]

theorem isContainer_of_mem_elements (h : element ∈ type.elements) : type.isContainer := by
  cases type with
  | primitive _ | custom _ | enum _ _ => cases h
  | list _ | nullableList _ | map _ _ | entryList _ _ => rfl

theorem parts_subset_of_mem_elements (h : element ∈ type.elements) :
    element.parts ⊆ type.parts := by
  rw [parts_of_isContainer (isContainer_of_mem_elements h)]
  exact fun part hpart => List.mem_cons_of_mem _ (List.mem_flatMap.mpr ⟨element, h, hpart⟩)

theorem elements_ne_nil (h : type.isContainer) : type.elements ≠ [] := by
  cases type with
  | primitive _ | custom _ | enum _ _ => cases h
  | list _ | nullableList _ | map _ _ | entryList _ _ => simp [elements]

/-- The spelling of a container has those of its elements in it. -/
theorem spelling_infix_of_mem_elements (h : element ∈ type.elements) :
    element.spelling.toList <:+: type.spelling.toList := by
  cases type with
  | primitive _ | custom _ | enum _ _ => cases h
  | list item | nullableList item =>
    obtain rfl := List.mem_singleton.mp h
    rw [spelling, String.toList_append]
    exact (List.suffix_append _ _).isInfix
  | map key value | entryList key value =>
    simp only [elements, List.mem_cons, List.not_mem_nil, or_false] at h
    rw [spelling, String.toList_append, String.toList_append]
    rcases h with rfl | rfl
    · rw [String.toList_append, List.append_assoc]
      exact List.infix_append _ _ _
    · exact (List.suffix_append _ _).isInfix

end WireCodecs.TypeName
