import Mathlib.Data.List.Infix
import WireCodecs.Proofs.Naming
import WireCodecs.Proofs.Target.Java.Support
import WireCodecs.Proofs.TypeName.Extent
import WireCodecs.Proofs.TypeName.RoundTrip

/-! Type arguments in Java, which are reference types. A primitive is boxed where it is an element
itself. An enumeration without a name is spelled as its base, and as an element it is not boxed:
over a primitive of fixed width it gives an argument such as `int`. Only a container whose shape
the table lists as fixed can hold such an element. -/

namespace WireCodecs

/-- The types whose spellings stand as arguments in the spelling of a type. The base of an
enumeration that has a name is not spelled. -/
def TypeName.argumentTypes : TypeName → List TypeName
  | .primitive _ | .custom _ | .enum _ (some _) => []
  | .enum base none => base.argumentTypes
  | .list item | .nullableList item => item :: item.argumentTypes
  | .map key value | .entryList key value =>
    key :: key.argumentTypes ++ value :: value.argumentTypes

theorem TypeName.mem_argumentTypes_iff {type argument : TypeName} (h : type.isContainer) :
    argument ∈ type.argumentTypes ↔
      ∃ element ∈ type.elements, argument = element ∨ argument ∈ element.argumentTypes := by
  cases type with
  | primitive _ | custom _ | enum _ _ => cases h
  | list _ | nullableList _ | map _ _ | entryList _ _ =>
    simp [argumentTypes, elements, or_assoc]

namespace Java

def unboxedSpellings : List String := ["boolean", "byte", "short", "int", "long", "float", "double"]

/-- A Java type taken apart. -/
inductive TypeExpr where
  | named (name : String)
  | unary (name : String) (argument : TypeExpr)
  | binary (name : String) (first second : TypeExpr)
  deriving DecidableEq, Repr

namespace TypeExpr

def render : TypeExpr → String
  | named name => name
  | unary name argument => name ++ "<" ++ argument.render ++ ">"
  | binary name first second => name ++ "<" ++ first.render ++ ", " ++ second.render ++ ">"

/-- The type arguments at any depth. -/
def arguments : TypeExpr → List TypeExpr
  | named _ => []
  | unary _ argument => argument :: argument.arguments
  | binary _ first second => first :: first.arguments ++ second :: second.arguments

def HasUnboxedArgument (type : TypeExpr) : Prop :=
  ∃ argument ∈ type.arguments, argument.render ∈ unboxedSpellings

end TypeExpr

/-- The spelling of a primitive by itself. -/
def primitiveSpelling (name : String) : String :=
  (((fixedPrimitives.lookup name).map (·.spelling)).or
    ((framedPrimitives.lookup name).map (·.1))).getD ""

/-- A container's element, boxed if it is a primitive that has a boxed spelling. -/
def argumentExpr (element : TypeName) (unboxed : TypeExpr) : TypeExpr :=
  match element with
  | .primitive name => ((fixedPrimitives.lookup name).map (.named ·.boxed)).getD unboxed
  | _ => unboxed

/-- How a type is spelled, taken apart. -/
def typeExpr (direction : Direction) : TypeName → TypeExpr
  | .primitive name => .named (primitiveSpelling name)
  | .custom name | .enum _ (some name) => .named (Naming.pascal name)
  | .enum base none => typeExpr direction base
  | .list item | .nullableList item =>
    .unary (collection direction) (argumentExpr item (typeExpr direction item))
  | .map key value =>
    .binary "java.util.Map" (argumentExpr key (typeExpr direction key))
      (argumentExpr value (typeExpr direction value))
  | .entryList key value =>
    .unary (collection direction) <|
      .binary "java.util.Map.Entry" (argumentExpr key (typeExpr direction key))
        (argumentExpr value (typeExpr direction value))

/-- A primitive with an unboxed spelling, or an enumeration that is spelled like one. -/
def IsUnboxed : TypeName → Prop
  | .primitive name => primitiveSpelling name ∈ unboxedSpellings
  | .enum base none => IsUnboxed base
  | _ => False

/-- An enumeration without a name that has an unboxed spelling. -/
def IsBareEnum : TypeName → Prop
  | .enum base none => IsUnboxed base
  | _ => False

variable {direction : Direction} {scope : TypeScope} {table : TypeTable} {type element : TypeName}

theorem isUnboxed_of_isBareEnum (h : IsBareEnum type) : IsUnboxed type := by
  cases type with
  | enum base name =>
    cases name with
    | none => exact h
    | some name => cases h
  | _ => cases h

section Spelling

theorem render_typeExpr_of_isContainer (h : type.isContainer) :
    (typeExpr direction type).render = containerSpelling direction type
      (type.elements.map fun element =>
        (argumentExpr element (typeExpr direction element)).render) := by
  cases type with
  | primitive _ | custom _ | enum _ _ => cases h
  | list _ | nullableList _ | map _ _ =>
    simp [typeExpr, TypeExpr.render, containerSpelling, TypeName.elements, Text.joinWith,
      String.append_assoc]
  | entryList _ _ =>
    have hopen : "<java.util.Map.Entry<" = "<" ++ "java.util.Map.Entry<" := rfl
    simp only [typeExpr, TypeExpr.render, containerSpelling, TypeName.elements, List.map_cons,
      List.map_nil, Text.joinWith, String.append_assoc]
    rw [hopen, String.append_assoc]
    rfl

theorem spelling_of_primitiveMapping {name : String} {mapping : TypeMapping}
    (h : primitiveMapping direction table name = .ok mapping) :
    mapping.spelling = primitiveSpelling name := by
  rw [primitiveMapping] at h
  split at h
  · next hfixed =>
    split at h
    · cases h
      simp [primitiveSpelling, hfixed]
    · cases h
  · next hfixed hframed =>
    cases h
    simp [primitiveSpelling, hfixed, hframed]
  · cases h

theorem elementSpelling_eq {elementMapping : Except Unmapped TypeMapping} {spelling : String}
    (hmapping : ∀ mapping, elementMapping = .ok mapping →
      mapping.spelling = (typeExpr direction element).render)
    (h : elementSpelling element elementMapping = .ok spelling) :
    spelling = (argumentExpr element (typeExpr direction element)).render := by
  have hown (h : (·.spelling) <$> elementMapping = .ok spelling) :
      spelling = (typeExpr direction element).render := by
    obtain ⟨mapping, hmapped, rfl⟩ := map_eq_ok_iff.mp h
    exact hmapping mapping hmapped
  cases element with
  | primitive name =>
    rw [elementSpelling] at h
    rw [argumentExpr]
    cases hfixed : fixedPrimitives.lookup name with
    | some primitive =>
      rw [hfixed] at h
      exact (Except.ok.inj h).symm
    | none =>
      rw [hfixed] at h
      exact hown h
  | _ => exact hown h

theorem spelling_of_mapping {mapping : TypeMapping}
    (h : Java.mapping direction scope type = .ok mapping) :
    mapping.spelling = (typeExpr direction type).render := by
  induction type using TypeName.elementInduction generalizing mapping with
  | primitive name => exact spelling_of_primitiveMapping h
  | custom name =>
    cases h
    rfl
  | enum base name ih =>
    obtain ⟨inner, hinner, h⟩ := bind_eq_ok_iff.mp h
    rw [pure_eq_ok_iff.mp h]
    cases name with
    | none => exact ih hinner
    | some name => rfl
  | container type htype ih =>
    rw [mapping_of_isContainer direction scope htype] at h
    obtain ⟨spellings, hspellings, h⟩ := bind_eq_ok_iff.mp h
    have hrender : spellings = type.elements.map fun element =>
        (argumentExpr element (typeExpr direction element)).render := by
      rw [← List.map_id spellings]
      exact map_eq_of_mapM_mem (fun element helement spelling hspelling =>
        elementSpelling_eq (fun mapping => ih element helement) hspelling) hspellings
    rw [render_typeExpr_of_isContainer htype, ← hrender]
    rw [containerMapping] at h
    split at h
    · cases h
      rfl
    · obtain ⟨references, -, h⟩ := bind_eq_ok_iff.mp h
      rw [pure_eq_ok_iff.mp h]

end Spelling

section Unboxed

theorem pascal_notMem_unboxedSpellings (name : String) :
    Naming.pascal name ∉ unboxedSpellings := by
  intro h
  have hlower : ∀ spelling ∈ unboxedSpellings, spelling.toList.head?.any Char.isLower := by decide
  obtain ⟨c, hhead, hc⟩ := (Option.any_eq_true _ _).mp (hlower _ h)
  rw [Naming.isLower_head_pascal hhead] at hc
  cases hc

theorem notMem_unboxedSpellings_of_bracket {spelling : String} (h : '<' ∈ spelling.toList) :
    spelling ∉ unboxedSpellings := by
  have hbracket : ∀ spelling ∈ unboxedSpellings, '<' ∉ spelling.toList := by decide
  exact fun hmem => hbracket spelling hmem h

theorem boxed_notMem_unboxedSpellings {name : String} {primitive : FixedPrimitive}
    (h : fixedPrimitives.lookup name = some primitive) : primitive.boxed ∉ unboxedSpellings := by
  have hall : ∀ entry ∈ fixedPrimitives, entry.2.boxed ∉ unboxedSpellings := by decide
  exact hall (name, primitive) (mem_of_lookup h)

theorem isSome_of_isUnboxed_primitive {name : String} (h : IsUnboxed (.primitive name)) :
    (fixedPrimitives.lookup name).isSome := by
  rw [IsUnboxed, primitiveSpelling] at h
  cases hfixed : fixedPrimitives.lookup name with
  | some primitive => rfl
  | none =>
    rw [hfixed, Option.map_none, Option.none_or] at h
    refine absurd h ?_
    cases hframed : framedPrimitives.lookup name with
    | none => decide
    | some entry =>
      have hall : ∀ entry ∈ framedPrimitives, entry.2.1 ∉ unboxedSpellings := by decide
      exact hall (name, entry) (mem_of_lookup hframed)

/-- Only a primitive has an unboxed spelling of its own. -/
theorem render_typeExpr_mem_iff :
    (typeExpr direction type).render ∈ unboxedSpellings ↔ IsUnboxed type := by
  induction type with
  | primitive name => rfl
  | custom name => simp [typeExpr, TypeExpr.render, IsUnboxed, pascal_notMem_unboxedSpellings]
  | enum base name ih =>
    cases name with
    | none => exact ih
    | some name =>
      simp [typeExpr, TypeExpr.render, IsUnboxed, pascal_notMem_unboxedSpellings]
  | list _ | nullableList _ | map _ _ | entryList _ _ =>
    simp only [IsUnboxed, iff_false]
    exact notMem_unboxedSpellings_of_bracket (by simp [typeExpr, TypeExpr.render])

/-- Of the elements, those that are primitives themselves are boxed. -/
theorem render_argumentExpr_mem_iff :
    (argumentExpr element (typeExpr direction element)).render ∈ unboxedSpellings ↔
      IsBareEnum element := by
  cases element with
  | primitive name =>
    simp only [IsBareEnum, iff_false]
    rw [argumentExpr]
    cases hfixed : fixedPrimitives.lookup name with
    | some primitive => exact boxed_notMem_unboxedSpellings hfixed
    | none =>
      intro h
      have hsome := isSome_of_isUnboxed_primitive h
      rw [hfixed] at hsome
      cases hsome
  | enum base name => cases name <;> exact render_typeExpr_mem_iff
  | custom _ | list _ | nullableList _ | map _ _ | entryList _ _ => exact render_typeExpr_mem_iff

end Unboxed

section Arguments

namespace TypeExpr

theorem not_hasUnboxedArgument_named (name : String) : ¬HasUnboxedArgument (named name) := by
  simp [HasUnboxedArgument, arguments]

theorem hasUnboxedArgument_unary_iff {name : String} {argument : TypeExpr} :
    HasUnboxedArgument (unary name argument) ↔
      argument.render ∈ unboxedSpellings ∨ HasUnboxedArgument argument := by
  simp [HasUnboxedArgument, arguments]

theorem hasUnboxedArgument_binary_iff {name : String} {first second : TypeExpr} :
    HasUnboxedArgument (binary name first second) ↔
      (first.render ∈ unboxedSpellings ∨ HasUnboxedArgument first) ∨
        second.render ∈ unboxedSpellings ∨ HasUnboxedArgument second := by
  simp [HasUnboxedArgument, arguments, or_and_right, exists_or, or_assoc]

end TypeExpr

/-- Boxing an element changes none of the arguments in it, as a primitive has none. -/
theorem hasUnboxedArgument_argumentExpr_iff :
    (argumentExpr element (typeExpr direction element)).HasUnboxedArgument ↔
      (typeExpr direction element).HasUnboxedArgument := by
  cases element with
  | primitive name =>
    rw [argumentExpr]
    cases fixedPrimitives.lookup name with
    | none => rfl
    | some primitive =>
      exact iff_of_false (TypeExpr.not_hasUnboxedArgument_named _)
        (TypeExpr.not_hasUnboxedArgument_named _)
  | _ => rfl

/-- An argument is unboxed exactly where an element is an enumeration spelled as a primitive. -/
theorem hasUnboxedArgument_typeExpr_iff :
    (typeExpr direction type).HasUnboxedArgument ↔
      ∃ element ∈ type.argumentTypes, IsBareEnum element := by
  induction type with
  | primitive _ | custom _ =>
    exact iff_of_false (TypeExpr.not_hasUnboxedArgument_named _) (by simp [TypeName.argumentTypes])
  | enum base name ih =>
    cases name with
    | none => exact ih
    | some name =>
      exact iff_of_false (TypeExpr.not_hasUnboxedArgument_named _)
        (by simp [TypeName.argumentTypes])
  | list item ih | nullableList item ih =>
    rw [typeExpr, TypeExpr.hasUnboxedArgument_unary_iff, render_argumentExpr_mem_iff,
      hasUnboxedArgument_argumentExpr_iff, ih]
    simp [TypeName.argumentTypes]
  | map key value ihKey ihValue =>
    rw [typeExpr, TypeExpr.hasUnboxedArgument_binary_iff]
    simp only [render_argumentExpr_mem_iff, hasUnboxedArgument_argumentExpr_iff, ihKey, ihValue]
    simp [TypeName.argumentTypes, or_and_right, exists_or, or_assoc]
  | entryList key value ihKey ihValue =>
    have hentry (first second : TypeExpr) :
        (TypeExpr.binary "java.util.Map.Entry" first second).render ∉ unboxedSpellings :=
      notMem_unboxedSpellings_of_bracket (by simp [TypeExpr.render])
    rw [typeExpr, TypeExpr.hasUnboxedArgument_unary_iff, or_iff_right (hentry _ _),
      TypeExpr.hasUnboxedArgument_binary_iff]
    simp only [render_argumentExpr_mem_iff, hasUnboxedArgument_argumentExpr_iff, ihKey, ihValue]
    simp [TypeName.argumentTypes, or_and_right, exists_or, or_assoc]

end Arguments

section Shapes

/-- What is spelled unboxed is coded at an offset, so there is no codec to refer to. -/
theorem not_hasPlainCodec_of_isUnboxed (h : IsUnboxed type) : ¬HasPlainCodec table type := by
  induction type with
  | primitive name =>
    rw [HasPlainCodec, framedPrimitives_lookup_of_fixed (isSome_of_isUnboxed_primitive h)]
    exact Bool.false_ne_true
  | enum base name ih =>
    cases name with
    | none => exact ih h
    | some name => cases h
  | _ => cases h

/-- A container that refers to the codecs of its elements holds no such enumeration. -/
theorem extent_of_isBareEnum (hsupported : Supported table type)
    (helement : element ∈ type.elements) (hbare : IsBareEnum element) :
    type.extent table = .fixed := by
  have htype := TypeName.isContainer_of_mem_elements helement
  refine ((supported_container_iff htype).mp hsupported).2.resolve_right fun hplain => ?_
  exact not_hasPlainCodec_of_isUnboxed (isUnboxed_of_isBareEnum hbare) (hplain element helement).2

theorem exists_container_of_isBareEnum (hsupported : Supported table type)
    (helement : element ∈ type.argumentTypes) (hbare : IsBareEnum element) :
    ∃ container ∈ type.parts, element ∈ container.elements ∧ container.extent table = .fixed := by
  induction type using TypeName.elementInduction with
  | primitive _ | custom _ => cases helement
  | enum base name ih =>
    cases name with
    | none =>
      obtain ⟨container, hcontainer, hholds⟩ := ih hsupported helement
      exact ⟨container, List.mem_cons_of_mem _ hcontainer, hholds⟩
    | some name => cases helement
  | container type htype ih =>
    obtain ⟨holder, hholder, rfl | hinner⟩ :=
      (TypeName.mem_argumentTypes_iff htype).mp helement
    · exact ⟨type, type.self_mem_parts, hholder, extent_of_isBareEnum hsupported hholder hbare⟩
    · have hnested : Supported table holder := by
        refine (((supported_container_iff htype).mp hsupported).1 holder hholder).resolve_left ?_
        intro hprimitive
        cases holder with
        | primitive name => cases hinner
        | _ => cases hprimitive
      obtain ⟨container, hcontainer, hholds⟩ := ih holder hholder hnested hinner
      exact ⟨container, TypeName.parts_subset_of_mem_elements hholder hcontainer, hholds⟩

theorem enumHead_in_spelling (helement : element ∈ type.elements) (hbare : IsBareEnum element) :
    TypeName.Head.enum.text.toList <:+: type.spelling.toList := by
  have hprefix : TypeName.Head.enum.text.toList <+: element.spelling.toList := by
    cases element with
    | enum base name =>
      cases name with
      | none => simp [TypeName.spelling]
      | some name => cases hbare
    | _ => cases hbare
  exact hprefix.isInfix.trans (TypeName.spelling_infix_of_mem_elements helement)

end Shapes

/-- In the spelling of a type, an argument is unboxed exactly where an element is an unnamed
enumeration over an unboxed primitive. The container that holds it is then listed as a fixed shape,
so where no listed name mentions an enumeration all arguments are boxed. -/
theorem boxes_all_but_bare_enums (direction : Direction) (scope : TypeScope) (type : TypeName)
    (mapping : TypeMapping) (h : Java.mapping direction scope type = .ok mapping) :
    mapping.spelling = (typeExpr direction type).render ∧
    ((typeExpr direction type).HasUnboxedArgument ↔
      ∃ element ∈ type.argumentTypes, IsBareEnum element) ∧
    (∀ element ∈ type.argumentTypes, IsBareEnum element → ∃ container ∈ type.parts,
      element ∈ container.elements ∧ container.spelling ∈ scope.table.listedNames) ∧
    ((∀ name ∈ scope.table.listedNames, ¬TypeName.Head.enum.text.toList <:+: name.toList) →
      ¬(typeExpr direction type).HasUnboxedArgument) := by
  have hlisted : ∀ element ∈ type.argumentTypes, IsBareEnum element → ∃ container ∈ type.parts,
      element ∈ container.elements ∧ container.spelling ∈ scope.table.listedNames := by
    intro element helement hbare
    have hsupported : Supported scope.table type :=
      (exists_mapping_iff direction scope type).mp ⟨mapping, h⟩
    obtain ⟨container, hcontainer, hholds, hextent⟩ :=
      exists_container_of_isBareEnum hsupported helement hbare
    have htype := TypeName.isContainer_of_mem_elements hholds
    exact ⟨container, hcontainer, hholds, TypeName.spelling_mem_listedNames htype hextent⟩
  refine ⟨spelling_of_mapping h, hasUnboxedArgument_typeExpr_iff, hlisted, ?_⟩
  intro hnames hunboxed
  obtain ⟨element, helement, hbare⟩ := hasUnboxedArgument_typeExpr_iff.mp hunboxed
  obtain ⟨container, -, hholds, hname⟩ := hlisted element helement hbare
  exact hnames _ hname (enumHead_in_spelling hholds hbare)

/-- Listing a list of unnamed enumerations over a primitive as a fixed shape makes an `int` an
argument. The standard table lists no shape with an enumeration. -/
theorem boxes_all_but_bare_enums_listed :
    let table : TypeTable := { TypeTable.standard with fixedLists := ["List_Enum_Int32"] }
    let kind := TypeName.enum (.primitive "Int32") none
    (TypeName.parse table "List_Enum_Int32" = .ok (.list kind) ∧
      ∃ mapping, Java.mapping .encode ⟨table, []⟩ (.list kind) = .ok mapping ∧
        mapping.spelling = "java.util.Collection<int>" ∧
        (typeExpr .encode (.list kind)).HasUnboxedArgument ∧
        ∃ container ∈ (TypeName.list kind).parts,
          kind ∈ container.elements ∧ container.spelling ∈ table.listedNames) ∧
    ¬(typeExpr .encode (.list (.primitive "Int32"))).HasUnboxedArgument := by
  intro table kind
  have hkind : kind ∈ (TypeName.list kind).argumentTypes := List.mem_cons_self
  have hbare : IsBareEnum kind := by
    change primitiveSpelling "Int32" ∈ unboxedSpellings
    decide
  obtain ⟨-, hunboxed, hlisted, -⟩ :=
    boxes_all_but_bare_enums .encode ⟨table, []⟩ (.list kind) _ rfl
  obtain ⟨-, -, -, hboxed⟩ :=
    boxes_all_but_bare_enums .encode ⟨.standard, []⟩ (.list (.primitive "Int32")) _ rfl
  refine ⟨⟨TypeName.parse_eq_ok_iff.mpr ⟨?_, ?_⟩, _, rfl, rfl,
    hunboxed.mpr ⟨kind, hkind, hbare⟩, hlisted kind hkind hbare⟩, hboxed (by decide)⟩
  · decide
  · decide

end Java

end WireCodecs
