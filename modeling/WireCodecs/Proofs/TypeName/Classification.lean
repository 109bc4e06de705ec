import WireCodecs.Proofs.TypeName.Extent
import WireCodecs.Proofs.TypeName.Views

/-! How the types of a protocol are classified. A type that can be read has a width in the fixed
part of a message exactly if its extent is fixed and it is not a container. This rests on the base
of an enumeration being a bare name: over a list of a listed shape, an enumeration would have the
fixed extent of the list and no width. -/

namespace WireCodecs.TypeName

variable {table : TypeTable} {type : TypeName}

section Leaves

theorem fixedWidth?_of_isLeaf (h : type.IsLeaf table) :
    type.fixedWidth? table = table.fixedSize? type.spelling := by
  cases type with
  | primitive name => exact fixedWidth?_primitive table name
  | custom name =>
    -- a custom name is not in the table, so both sides are empty
    have hunlisted : table.isFixedPrimitive name = false := (Bool.or_eq_false_iff.mp h.2).1
    have hsize : table.fixedSize? name = none := by
      rwa [TypeTable.isFixedPrimitive, Option.isSome_eq_false_iff, Option.isNone_iff_eq_none]
        at hunlisted
    simp [fixedWidth?, spelling, hsize]
  | list _ | nullableList _ | map _ _ | entryList _ _ | enum _ _ => exact h.elim

theorem extent_of_isLeaf (h : type.IsLeaf table) :
    type.extent table = .fixed ↔ table.isFixedPrimitive type.spelling = true := by
  rw [extent_eq_fixed_iff]
  cases type with
  | primitive _ | custom _ => simp [hasFixedExtent, isFixedShape]
  | list _ | nullableList _ | map _ _ | entryList _ _ | enum _ _ => exact h.elim

theorem isSome_fixedWidth?_of_isLeaf (h : type.IsLeaf table) :
    (type.fixedWidth? table).isSome = true ↔ type.extent table = .fixed := by
  rw [fixedWidth?_of_isLeaf h, extent_of_isLeaf h, TypeTable.isFixedPrimitive]

end Leaves

section WellFormed

theorem fixedWidth?_of_isContainer (h : type.isContainer) : type.fixedWidth? table = none := by
  cases type with
  | primitive _ | custom _ | enum _ _ => cases h
  | list _ | nullableList _ | map _ _ | entryList _ _ => simp [fixedWidth?, isContainer]

theorem isSome_fixedWidth?_iff (h : type.WellFormed table) :
    (type.fixedWidth? table).isSome = true ↔
      type.extent table = .fixed ∧ type.isContainer = false := by
  cases type with
  | primitive _ | custom _ => simp [isSome_fixedWidth?_of_isLeaf h, isContainer]
  | list _ | nullableList _ | map _ _ | entryList _ _ =>
    rw [fixedWidth?_of_isContainer rfl]
    simp [isContainer]
  | enum base name =>
    have hbase := isSome_fixedWidth?_of_isLeaf h.1.1
    rw [extent_eq_fixed_iff] at hbase
    simp [fixedWidth?_enum, Option.isSome_or, hbase, extent_eq_fixed_iff, hasFixedExtent,
      isContainer, TypeTable.isFixedPrimitive]

/-- The width of an enumeration is listed under its own name, or else under that of its base. -/
theorem fixedWidth?_eq_some (h : type.WellFormed table) {width : Nat}
    (hwidth : type.fixedWidth? table = some width) :
    table.fixedSize? type.spelling = some width ∨
      table.fixedSize? type.spelling = none ∧
        ∃ base name, type = enum base name ∧ table.fixedSize? base.spelling = some width := by
  cases type with
  | primitive _ | custom _ => exact .inl (fixedWidth?_of_isLeaf h ▸ hwidth)
  | list _ | nullableList _ | map _ _ | entryList _ _ =>
    rw [fixedWidth?_of_isContainer rfl] at hwidth
    cases hwidth
  | enum base name =>
    rw [fixedWidth?_enum, fixedWidth?_of_isLeaf h.1.1, Option.or_eq_some_iff] at hwidth
    exact hwidth.imp_right fun ⟨hnone, hbase⟩ => ⟨hnone, base, name, rfl, hbase⟩

theorem of_extent_eq_variable (h : type.extent table = .variable) :
    table.isFixedPrimitive type.spelling = false ∧ type.isFixedShape table = false ∧
      type.fixedWidth? table = none := by
  have hextent := extent_eq_variable_iff.mp h
  refine ⟨?_, ?_, ?_⟩
  · cases type <;> simp_all [hasFixedExtent]
  · cases type <;> simp_all [hasFixedExtent, isFixedShape]
  · refine Option.eq_none_iff_forall_ne_some.mpr fun width hwidth => ?_
    rw [hasFixedExtent_of_fixedWidth? hwidth] at hextent
    cases hextent

theorem extent_container_iff (h : type.isContainer) : type.extent table = .fixed ↔
    type.isFixedShape table = true ∨ table.isFixedPrimitive type.spelling = true := by
  rw [extent_eq_fixed_iff, or_comm]
  cases type with
  | primitive _ | custom _ | enum _ _ => cases h
  | list _ | nullableList _ | map _ _ | entryList _ _ => simp [hasFixedExtent]

end WellFormed

/-- Extent, width and views classify every type that is read alike, with any table: the fixed part
of a message takes exactly the types of fixed extent that are no containers, each with the width
that the table lists for it or for the base of the enumeration that it is; and a container of
variable extent is exactly one kind of variable container. -/
theorem classification_of_parse (table : TypeTable) (raw : String) (type : TypeName)
    (h : parse table raw = .ok type) :
    ((type.fixedWidth? table).isSome = true ↔
      type.extent table = .fixed ∧ type.isContainer = false) ∧
    (∀ width, type.fixedWidth? table = some width →
      table.fixedSize? type.spelling = some width ∨
        table.fixedSize? type.spelling = none ∧
          ∃ base name, type = enum base name ∧ table.fixedSize? base.spelling = some width) ∧
    (type.extent table = .variable →
      table.isFixedPrimitive type.spelling = false ∧ type.isFixedShape table = false ∧
        type.fixedWidth? table = none) ∧
    (type.isContainer = true → type.extent table = .fixed →
      type.isFixedShape table = true ∨ table.isFixedPrimitive type.spelling = true) ∧
    (type.isContainer = true → type.extent table = .variable →
      (variableTests table raw).count true = 1) := by
  have hwf := (parse_eq_ok_iff.mp h).1
  refine ⟨isSome_fixedWidth?_iff hwf, fun width => fixedWidth?_eq_some hwf,
    of_extent_eq_variable, fun htype => (extent_container_iff htype).mp, fun htype hextent => ?_⟩
  rw [count_variableTests h, htype, (of_extent_eq_variable hextent).2.1]
  rfl

/-- An enumeration whose base has no width is listed with one of its own; a map of a shape that is
not listed is variable. -/
theorem classification_of_parse_listed :
    let table : TypeTable :=
      { TypeTable.standard with fixedPrimitives := [("Int32", 4), ("Enum_String_Mode", 1)] }
    let mode := enum (primitive "String") (some "Mode")
    let modes := map (primitive "Int32") mode
    (parse table "Enum_String_Mode" = .ok mode ∧ mode.extent table = .fixed ∧
      (mode.fixedWidth? table).isSome = true ∧
      table.fixedSize? mode.spelling = some 1) ∧
    (parse table "Map_Int32_Enum_String_Mode" = .ok modes ∧ modes.extent table = .variable ∧
      modes.fixedWidth? table = none ∧
      (variableTests table "Map_Int32_Enum_String_Mode").count true = 1) := by
  intro table mode modes
  have hmode : parse table "Enum_String_Mode" = .ok mode :=
    parse_eq_ok_iff.mpr ⟨by decide, by decide⟩
  have hmodes : parse table "Map_Int32_Enum_String_Mode" = .ok modes :=
    parse_eq_ok_iff.mpr ⟨by decide, by decide⟩
  have hfixed : mode.extent table = .fixed := by decide
  have hvariable : modes.extent table = .variable := by decide
  obtain ⟨hwidth, -⟩ := classification_of_parse table _ mode hmode
  obtain ⟨-, -, hnone, -, hcount⟩ := classification_of_parse table _ modes hmodes
  exact ⟨⟨hmode, hfixed, hwidth.mpr ⟨hfixed, rfl⟩, by decide⟩, hmodes, hvariable,
    (hnone hvariable).2.2, hcount rfl hvariable⟩

/-- Over a list of a listed shape, an enumeration has the fixed extent and no width. No name is read
as such a type. -/
example :
    let type := enum (list (primitive "Int32")) none
    type.extent .standard = .fixed ∧ type.fixedWidth? .standard = none ∧
      ¬type.WellFormed .standard := by
  decide

end WireCodecs.TypeName
