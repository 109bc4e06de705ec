import WireCodecs.TypeName.Extent

/-! Where the width of a type comes from. A bare name has the width that the table lists for it, and
a container has none. An enumeration has the width of the type under it, unless the table lists its
full name with a width of its own. -/

namespace WireCodecs

/-- The names that the table gives the fixed extent. -/
def TypeTable.listedNames (table : TypeTable) : List String :=
  table.fixedPrimitives.map (·.1) ++ table.fixedLists ++ table.fixedMaps ++ table.fixedEntryLists

namespace TypeName

variable {table : TypeTable}

/-- The type under the enumerations. -/
def underlying : TypeName → TypeName
  | enum base _ => underlying base
  | type => type

theorem extent_eq_fixed_iff {type : TypeName} :
    type.extent table = .fixed ↔ type.hasFixedExtent table = true := by
  unfold extent
  split <;> simp [*]

theorem extent_eq_variable_iff {type : TypeName} :
    type.extent table = .variable ↔ type.hasFixedExtent table = false := by
  unfold extent
  split <;> simp [*]

/-- A container has the fixed extent by its own name. -/
theorem spelling_mem_listedNames {type : TypeName} (htype : type.isContainer)
    (hextent : type.extent table = .fixed) : type.spelling ∈ table.listedNames := by
  have hprimitive (h : table.isFixedPrimitive type.spelling) :
      type.spelling ∈ table.fixedPrimitives.map (·.1) := by
    obtain ⟨size, hlookup⟩ := Option.isSome_iff_exists.mp h
    obtain ⟨_, _, hsplit, _⟩ := List.lookup_eq_some_iff.mp hlookup
    simp [hsplit]
  have hlisted := extent_eq_fixed_iff.mp hextent
  cases type with
  | primitive _ | custom _ | enum _ _ => cases htype
  | list _ | nullableList _ | map _ _ | entryList _ _ =>
    simp only [hasFixedExtent, isFixedShape, Bool.or_eq_true, List.contains_iff_mem] at hlisted
    simp only [TypeTable.listedNames, List.mem_append]
    rcases hlisted with hlisted | hlisted
    · simp only [hprimitive hlisted, true_or]
    · simp only [hlisted, true_or, or_true]

theorem hasFixedExtent_of_listed {type : TypeName} {size : Nat}
    (h : table.fixedSize? type.spelling = some size) : type.hasFixedExtent table = true := by
  have hlisted : table.isFixedPrimitive type.spelling = true := by
    rw [TypeTable.isFixedPrimitive, h, Option.isSome_some]
  cases type <;> simp [hasFixedExtent, hlisted]

theorem hasFixedExtent_of_fixedWidth? {type : TypeName} {width : Nat}
    (h : type.fixedWidth? table = some width) : type.hasFixedExtent table = true := by
  cases hextent : type.hasFixedExtent table with
  | true => rfl
  | false =>
    have hvariable : type.extent table = .variable := extent_eq_variable_iff.mpr hextent
    cases type <;> simp [fixedWidth?, hvariable] at h

theorem fixedWidth?_primitive (table : TypeTable) (name : String) :
    (primitive name).fixedWidth? table = table.fixedSize? name := by
  cases h : table.fixedSize? name with
  | none => simp [fixedWidth?, spelling, h]
  | some size =>
    have hfixed : (primitive name).hasFixedExtent table = true := hasFixedExtent_of_listed h
    simp [fixedWidth?, spelling, isContainer, extent_eq_variable_iff, hfixed, h]

/-- The own width of an enumeration comes before that of its base. -/
theorem fixedWidth?_enum (table : TypeTable) (base : TypeName) (name : Option String) :
    (enum base name).fixedWidth? table =
      (table.fixedSize? (enum base name).spelling).or (base.fixedWidth? table) := by
  rw [fixedWidth?]
  split
  · rfl
  · next h =>
    rw [extent_eq_fixed_iff] at h
    cases hsize : table.fixedSize? (enum base name).spelling with
    | some size => exact absurd (hasFixedExtent_of_listed hsize) h
    | none =>
      cases hwidth : base.fixedWidth? table with
      | none => rfl
      | some width =>
        refine absurd ?_ h
        simp [hasFixedExtent, hasFixedExtent_of_fixedWidth? hwidth]

theorem fixedWidth?_underlying_eq_none {type : TypeName} (h : type.fixedWidth? table = none) :
    type.underlying.fixedWidth? table = none := by
  induction type with
  | enum base name ih =>
    rw [fixedWidth?_enum, Option.or_eq_none_iff] at h
    exact ih h.2
  | _ => exact h

/-- Without enumerations in the table, every enumeration has the width of its base. -/
theorem fixedWidth?_underlying_of_unlisted
    (h : ∀ base name, table.fixedSize? (enum base name).spelling = none) (type : TypeName) :
    type.fixedWidth? table = type.underlying.fixedWidth? table := by
  induction type with
  | enum base name ih =>
    rw [fixedWidth?_enum, h base name, Option.none_or]
    exact ih
  | _ => rfl

end TypeName

end WireCodecs
