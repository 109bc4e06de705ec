import WireCodecs.Proofs.Target.Java.Containers
import WireCodecs.Proofs.TypeName.Extent
import WireCodecs.Target.Registry

/-! The width that an operation takes its value with. In C++ it is the width of the type as the
table gives it. In Java an enumeration is coded as its base, so it is the width of the type under
the enumerations, whether or not the table lists the enumeration itself. -/

namespace WireCodecs

theorem Operation.isFixed_eq_isSome (op : Operation) : op.isFixed = op.size?.isSome := by
  unfold Operation.isFixed Operation.size?
  split <;> rfl

variable {direction : Direction} {scope : TypeScope} {type : TypeName} {mapping : TypeMapping}

namespace Cpp

theorem size?_of_mapping (h : Cpp.mapping direction scope type = .ok mapping) :
    mapping.op.size? = type.fixedWidth? scope.table := by
  have hplace : mapping.op.place = place scope.table type := by
    rw [Cpp.mapping, bind_eq_ok_iff] at h
    obtain ⟨value, -, h⟩ := h
    cases direction with
    | encode => rw [pure_eq_ok_iff.mp h]
    | decode => rw [pure_eq_ok_iff.mp h]
  rw [Operation.size?, hplace, place]
  cases type.fixedWidth? scope.table <;> rfl

end Cpp

namespace Java

theorem size?_of_containerMapping {spelling codec verb : String}
    {references : Except Unmapped (List String)}
    (h : containerMapping direction scope type spelling codec verb references = .ok mapping) :
    mapping.op.size? = none := by
  unfold containerMapping at h
  split at h
  · cases h
    rfl
  · obtain ⟨args, -, h⟩ := bind_eq_ok_iff.mp h
    rw [pure_eq_ok_iff.mp h]
    rfl

theorem size?_of_primitiveMapping {name : String} {size : Nat}
    (h : primitiveMapping direction scope.table name = .ok mapping)
    (hsize : mapping.op.size? = some size) : scope.table.fixedSize? name = some size := by
  unfold primitiveMapping at h
  split at h
  · split at h
    · next hlisted =>
      cases h
      rw [hlisted]
      exact hsize
    · cases h
  · cases h
    cases hsize
  · cases h

/-- The induction goes down through the enumerations to the primitive that has the width. -/
theorem fixedWidth?_underlying_of_mapping {size : Nat}
    (h : Java.mapping direction scope type = .ok mapping) (hsize : mapping.op.size? = some size) :
    type.underlying.fixedWidth? scope.table = some size := by
  have hframed : mapping.op.size? ≠ none := by simp [hsize]
  induction type using TypeName.elementInduction generalizing mapping with
  | primitive name =>
    show (TypeName.primitive name).fixedWidth? scope.table = some size
    rw [TypeName.fixedWidth?_primitive]
    exact size?_of_primitiveMapping h hsize
  | custom name =>
    cases h
    cases hsize
  | enum base name ih =>
    obtain ⟨inner, hinner, h⟩ := bind_eq_ok_iff.mp h
    have hop : mapping.op = inner.op := by rw [pure_eq_ok_iff.mp h]
    rw [hop] at hsize hframed
    exact ih hinner hsize hframed
  | container type htype _ =>
    rw [mapping_of_isContainer direction scope htype] at h
    obtain ⟨spellings, -, h⟩ := bind_eq_ok_iff.mp h
    exact absurd (size?_of_containerMapping h) hframed

theorem size?_of_mapping (h : Java.mapping direction scope type = .ok mapping)
    (hfixed : (type.fixedWidth? scope.table).isSome = mapping.op.isFixed) :
    mapping.op.size? = type.underlying.fixedWidth? scope.table := by
  rw [Operation.isFixed_eq_isSome] at hfixed
  cases hsize : mapping.op.size? with
  | some size => exact (fixedWidth?_underlying_of_mapping h hsize).symm
  | none =>
    rw [hsize, Option.isSome_none, Option.isSome_eq_false_iff, Option.isNone_iff_eq_none] at hfixed
    exact (TypeName.fixedWidth?_underlying_eq_none hfixed).symm

end Java

end WireCodecs
