import WireCodecs.Proofs.Codec.Plan
import WireCodecs.Proofs.TypeName.Reading

/-! The fixed part of a message in both languages. The two put the same fields at an offset, but not
always at the same one: C++ takes the width of an enumeration from the table's entry for its full
name if there is one, and Java always from its base. -/

namespace WireCodecs

section Listed

/-- Whether no listed name is that of an enumeration. -/
def TypeTable.ListsNoEnumeration (table : TypeTable) : Prop :=
  ∀ entry ∈ table.fixedPrimitives, TypeName.Head.enum.strip? entry.1.toList = none

instance (table : TypeTable) : Decidable table.ListsNoEnumeration :=
  inferInstanceAs (Decidable (∀ entry ∈ table.fixedPrimitives,
    TypeName.Head.enum.strip? entry.1.toList = none))

theorem TypeTable.ListsNoEnumeration.fixedSize?_enum {table : TypeTable}
    (h : table.ListsNoEnumeration) (base : TypeName) (name : Option String) :
    table.fixedSize? (TypeName.enum base name).spelling = none := by
  rw [fixedSize?, List.lookup_eq_none_iff]
  intro entry hentry
  rw [bne_iff_ne]
  intro hname
  have hspelling := TypeName.spelling_enum base name
  rw [hname] at hspelling
  have hstrip := TypeName.Head.strip?_eq_some_iff.mpr hspelling
  rw [h entry hentry] at hstrip
  cases hstrip

end Listed

/-- Whether each field is as wide as the type under its enumerations. -/
def WidthsFollowBase (table : TypeTable) (fields : List Field) : Prop :=
  ∀ field ∈ fields, field.type.fixedWidth? table = field.type.underlying.fixedWidth? table

instance (table : TypeTable) (fields : List Field) : Decidable (WidthsFollowBase table fields) :=
  inferInstanceAs (Decidable (∀ field ∈ fields,
    field.type.fixedWidth? table = field.type.underlying.fixedWidth? table))

theorem TypeTable.ListsNoEnumeration.widthsFollowBase {table : TypeTable}
    (h : table.ListsNoEnumeration) (fields : List Field) : WidthsFollowBase table fields := by
  intro field _
  exact TypeName.fixedWidth?_underlying_of_unlisted h.fixedSize?_enum field.type

theorem TypeTable.standard_widthsFollowBase (fields : List Field) :
    WidthsFollowBase standard fields := by
  have hlists : standard.ListsNoEnumeration := by decide
  exact hlists.widthsFollowBase fields

section Plans

variable {types : TypeScope} {namespaceName : String} {direction : Direction} {fields : List Field}
  {plan : Plan}

theorem Java.widths_of_plan
    (h : RenderScope.plan ⟨Java.mappingSet, types, namespaceName⟩ direction fields = .ok plan) :
    plan.widths = fields.map fun field => field.type.underlying.fixedWidth? types.table := by
  refine RenderScope.widths_of_plan (·.underlying.fixedWidth? types.table) ?_ h
  intro type mapping hmapping hfixed
  exact Java.size?_of_mapping hmapping hfixed

theorem Cpp.widths_of_plan
    (h : RenderScope.plan ⟨Cpp.mappingSet, types, namespaceName⟩ direction fields = .ok plan) :
    plan.widths = fields.map fun field => field.type.fixedWidth? types.table := by
  refine RenderScope.widths_of_plan (·.fixedWidth? types.table) ?_ h
  intro type mapping hmapping _
  exact Cpp.size?_of_mapping hmapping

end Plans

/-- A message that both languages accept has the same fields at an offset and the same fields in
frames in both. The sizes in C++ are the widths of the fields, those in Java the widths of the types
under their enumerations; so the offsets, up to the end of the fixed part, agree exactly if the two
widths of every field do, as they do where no enumeration is listed. The length of the fixed part is
the sum of the sizes as long as the sum is a machine word. -/
theorem placement_agrees_iff {types : TypeScope} {javaNamespace cppNamespace : String}
    {javaDirection cppDirection : Direction} {fields : List Field} {java cpp : Plan}
    (hjava : RenderScope.plan ⟨Language.java.mappingSet, types, javaNamespace⟩ javaDirection
      fields = .ok java)
    (hcpp : RenderScope.plan ⟨Language.cpp.mappingSet, types, cppNamespace⟩ cppDirection fields =
      .ok cpp) :
    java.fixedIndexes = cpp.fixedIndexes ∧ java.framedIndexes = cpp.framedIndexes ∧
    cpp.fixed.map (·.size) = fields.filterMap (·.type.fixedWidth? types.table) ∧
    java.fixed.map (·.size) = fields.filterMap (·.type.underlying.fixedWidth? types.table) ∧
    (∀ plan ∈ [java, cpp], (plan.fixed.map (·.size)).sum < UInt64.size →
      plan.fixedSize = (plan.fixed.map (·.size)).sum) ∧
    (java.fixed.map (·.size) = cpp.fixed.map (·.size) ↔ WidthsFollowBase types.table fields) ∧
    (∀ base, java.offsets base = cpp.offsets base ↔ WidthsFollowBase types.table fields) ∧
    (WidthsFollowBase types.table fields → java.fixedSize = cpp.fixedSize) ∧
    (types.table.ListsNoEnumeration → WidthsFollowBase types.table fields) := by
  have hjavaWidths := Java.widths_of_plan hjava
  have hcppWidths := Cpp.widths_of_plan hcpp
  have hsome : java.widths.map Option.isSome = cpp.widths.map Option.isSome := by
    rw [RenderScope.isSome_widths_of_plan hjava, RenderScope.isSome_widths_of_plan hcpp]
  have hwidths : java.widths = cpp.widths ↔ WidthsFollowBase types.table fields := by
    rw [hjavaWidths, hcppWidths, List.map_inj_left]
    exact forall₂_congr fun field _ => eq_comm
  have hsizes : java.fixed.map (·.size) = cpp.fixed.map (·.size) ↔
      WidthsFollowBase types.table fields := by
    rw [java.fixedSizes_eq, cpp.fixedSizes_eq, filterMap_id_eq_iff hsome, hwidths]
  have hcppSizes : cpp.fixed.map (·.size) = fields.filterMap (·.type.fixedWidth? types.table) := by
    rw [cpp.fixedSizes_eq, hcppWidths, List.filterMap_map]
    rfl
  have hjavaSizes : java.fixed.map (·.size) =
      fields.filterMap (·.type.underlying.fixedWidth? types.table) := by
    rw [java.fixedSizes_eq, hjavaWidths, List.filterMap_map]
    rfl
  refine ⟨?fixed, ?framed, hcppSizes, hjavaSizes, fun plan _ => Plan.fixedSize_of_lt, hsizes,
    ?offsets, ?size, ?unlisted⟩
  case fixed => exact Plan.fixedIndexes_eq_of_isSome hsome
  case framed => exact Plan.framedIndexes_eq_of_isSome hsome
  case offsets =>
    intro base
    rw [Plan.offsets, Plan.offsets, offsetsFrom_eq_iff, hsizes]
  case size =>
    intro h
    rw [Plan.fixedSize, Plan.fixedSize, hsizes.mpr h]
  case unlisted => exact fun h => h.widthsFollowBase fields

/-- An enumeration that is listed with one byte, over a base of four, and a field behind it. -/
theorem placement_differs_of_listed_enum :
    let types : TypeScope := ⟨⟨[("Int32", 4), ("Enum_Int32_Color", 1)], [], [], [], []⟩, []⟩
    let fields : List Field :=
      [⟨"color", .enum (.primitive "Int32") (some "Color"), false, none, none⟩,
        ⟨"width", .primitive "Int32", false, none, none⟩]
    ∃ java cpp,
      RenderScope.plan ⟨Language.java.mappingSet, types, ""⟩ .encode fields = .ok java ∧
      RenderScope.plan ⟨Language.cpp.mappingSet, types, ""⟩ .decode fields = .ok cpp ∧
      java.fixedIndexes = cpp.fixedIndexes ∧ java.offsets 0 ≠ cpp.offsets 0 ∧
      java.offsets 0 = [0, 4, 8] ∧ cpp.offsets 0 = [0, 1, 5] ∧
      java.fixedSize = 8 ∧ cpp.fixedSize = 5 := by
  intro types fields
  refine ⟨_, _, rfl, rfl, ?_⟩
  obtain ⟨hfixed, -, -, -, -, -, hoffsets, -⟩ :=
    @placement_agrees_iff types "" "" .encode .decode fields _ _ rfl rfl
  have hdiffer : ¬ WidthsFollowBase types.table fields := by decide
  exact ⟨hfixed, mt (hoffsets 0).mp hdiffer, rfl, rfl, rfl, rfl⟩

end WireCodecs
