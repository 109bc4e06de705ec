import WireCodecs.Proofs.Target.Java.Containers
import WireCodecs.Proofs.Text.Lines
import WireCodecs.Target.Registry

/-! The mappings of a type for encoding and for decoding. Either both directions have one or neither
has, for the same reason, and the operations of the two take their value from the same place. In
Java the two calls, and the references to the codecs of elements, differ only in the verb behind the
codec class; in C++ the call for decoding names the type that it gives. -/

namespace WireCodecs

/-- Two calls of one codec class that differ only in the verb after it. -/
def Counterparts (separator encode decode : String) : Prop :=
  ∃ codec suffix : String, '.' ∉ suffix.toList ∧
    encode = codec ++ separator ++ "encode" ++ suffix ∧
    decode = codec ++ separator ++ "decode" ++ suffix

/-- Mappings whose operations correspond to each other, up to the spelling of the type. -/
structure TypeMapping.Paired (encode decode : TypeMapping) : Prop where
  place : encode.op.place = decode.op.place
  call : Counterparts "." encode.op.call decode.op.call
  extraArgs : List.Forall₂ (Counterparts "::") encode.op.extraArgs decode.op.extraArgs

namespace Java

section References

theorem methodReference_append (codec : String) {method : String} (h : '.' ∉ method.toList) :
    methodReference (codec ++ "." ++ method) = codec ++ "::" ++ method := by
  have hsplit : Text.splitOn '.' (codec ++ "." ++ method) = Text.splitOn '.' codec ++ [method] := by
    simp [Text.splitOn, Text.splitChars_append _ h]
  have hne : Text.splitOn '.' codec ≠ [] := by
    simpa [Text.splitOn] using Text.splitChars_ne_nil '.' codec.toList
  obtain ⟨first, classes, hr⟩ := List.exists_cons_of_ne_nil (List.reverse_ne_nil_iff.mpr hne)
  rw [methodReference, hsplit, List.reverse_concat, hr]
  simp only
  rw [← hr, List.reverse_reverse]
  exact congrArg (· ++ "::" ++ method) (Text.joinWith_splitOn '.' codec)

theorem methodReference_counterparts {encode decode : String}
    (h : Counterparts "." encode decode) :
    Counterparts "::" (methodReference encode) (methodReference decode) := by
  obtain ⟨codec, suffix, hdot, rfl, rfl⟩ := h
  refine ⟨codec, suffix, hdot, ?_, ?_⟩
  · rw [String.append_assoc, methodReference_append codec (by simpa using hdot),
      ← String.append_assoc]
  · rw [String.append_assoc, methodReference_append codec (by simpa using hdot),
      ← String.append_assoc]

end References

section Containers

variable {scope : TypeScope} {encode decode : Except Unmapped TypeMapping}

theorem elementSpelling_outcome (element : TypeName)
    (h : SameOutcome TypeMapping.Paired encode decode) :
    SameOutcome (fun _ _ => True) (elementSpelling element encode)
      (elementSpelling element decode) := by
  have hspelling : SameOutcome (fun _ _ => True) ((·.spelling) <$> encode)
      ((·.spelling) <$> decode) := h.map fun _ _ _ => trivial
  cases element with
  | primitive name =>
    simp only [elementSpelling]
    split
    · exact .ok trivial
    · exact hspelling
  | _ => exact hspelling

/-- Whether an element can be referred to depends on the place and the further arguments of its
operation, which are the same for both directions. -/
theorem elementReference_outcome (element : TypeName)
    (h : SameOutcome TypeMapping.Paired encode decode) :
    SameOutcome (Counterparts "::") (elementReference element encode)
      (elementReference element decode) := by
  cases h with
  | error e => exact .error e
  | @ok encode decode h =>
    have hfixed : encode.op.isFixed = decode.op.isFixed := by
      rw [Operation.isFixed, h.place, Operation.isFixed]
    have hempty : encode.op.extraArgs.isEmpty = decode.op.extraArgs.isEmpty := by
      rw [Bool.eq_iff_iff, List.isEmpty_iff, List.isEmpty_iff, ← List.length_eq_zero_iff,
        ← List.length_eq_zero_iff, h.extraArgs.length_eq]
    simp only [elementReference, hfixed, hempty]
    split
    · exact .ok (methodReference_counterparts h.call)
    · exact .error _

theorem framed_paired (codec suffix : String) {encodeSpelling decodeSpelling : String}
    (hdot : '.' ∉ suffix.toList) {encodeArgs decodeArgs : List String}
    (hargs : List.Forall₂ (Counterparts "::") encodeArgs decodeArgs) :
    TypeMapping.Paired ⟨encodeSpelling, framed codec ("encode" ++ suffix) encodeArgs⟩
      ⟨decodeSpelling, framed codec ("decode" ++ suffix) decodeArgs⟩ where
  place := rfl
  call := ⟨codec, suffix, hdot, (String.append_assoc ..).symm, (String.append_assoc ..).symm⟩
  extraArgs := hargs

theorem containerMapping_outcome (type : TypeName) (codec suffix : String)
    {encodeSpelling decodeSpelling : String} (hdot : '.' ∉ suffix.toList)
    {encodeArgs decodeArgs : Except Unmapped (List String)}
    (hargs : SameOutcome (List.Forall₂ (Counterparts "::")) encodeArgs decodeArgs) :
    SameOutcome TypeMapping.Paired
      (containerMapping .encode scope type encodeSpelling codec ("encode" ++ suffix) encodeArgs)
      (containerMapping .decode scope type decodeSpelling codec ("decode" ++ suffix)
        decodeArgs) := by
  unfold containerMapping
  split
  · exact .ok (framed_paired (shapeCodec type) "" (by decide) .nil)
  · exact hargs.bind fun _ _ h => .ok (framed_paired codec suffix hdot h)

end Containers

theorem dot_notMem_suffix {name : String} {primitive : FixedPrimitive}
    (h : fixedPrimitives.lookup name = some primitive) : '.' ∉ primitive.suffix.toList := by
  have hall : ∀ entry ∈ fixedPrimitives, '.' ∉ entry.2.suffix.toList := by decide
  exact hall (name, primitive) (mem_of_lookup h)

theorem primitiveMapping_outcome (table : TypeTable) (name : String) :
    SameOutcome TypeMapping.Paired (primitiveMapping .encode table name)
      (primitiveMapping .decode table name) := by
  simp only [primitiveMapping]
  split
  · next primitive hlookup =>
    split
    · exact .ok ⟨rfl,
        ⟨"FixedSizeTypesCodec", primitive.suffix, dot_notMem_suffix hlookup, rfl, rfl⟩, .nil⟩
    · exact .error _
  · exact .ok (framed_paired _ "" (by decide) .nil)
  · exact .error _

theorem exists_containerVerb (type : TypeName) :
    ∃ suffix : String, '.' ∉ suffix.toList ∧
      containerVerb .encode type = "encode" ++ suffix ∧
      containerVerb .decode type = "decode" ++ suffix := by
  cases type with
  | nullableList item => exact ⟨"ContainsNullable", by decide, rfl, rfl⟩
  | _ => exact ⟨"", by decide, rfl, rfl⟩

/-- The induction follows the type: the elements of a container are mapped in both directions in the
same way before the container is. -/
theorem mapping_outcome (scope : TypeScope) (type : TypeName) :
    SameOutcome TypeMapping.Paired (mapping .encode scope type) (mapping .decode scope type) := by
  induction type using TypeName.elementInduction with
  | primitive name => exact primitiveMapping_outcome scope.table name
  | custom name => exact .ok (framed_paired _ "" (by decide) .nil)
  | enum base name ih =>
    rw [mapping, mapping]
    refine ih.bind fun encode decode h => .ok ⟨h.place, h.call, h.extraArgs⟩
  | container type htype ih =>
    rw [mapping_of_isContainer .encode scope htype, mapping_of_isContainer .decode scope htype]
    have hspellings := SameOutcome.mapM type.elements fun element helement =>
      elementSpelling_outcome element (ih element helement)
    have hreferences := SameOutcome.mapM type.elements fun element helement =>
      elementReference_outcome element (ih element helement)
    refine hspellings.bind fun _ _ _ => ?_
    obtain ⟨suffix, hdot, hencode, hdecode⟩ := exists_containerVerb type
    rw [hencode, hdecode]
    exact containerMapping_outcome type (containerCodec type) suffix hdot hreferences

end Java

namespace Cpp

theorem mapping_outcome (scope : TypeScope) (type : TypeName) :
    SameOutcome (fun encode decode : TypeMapping =>
        encode.op = ⟨place scope.table type, "msg.set", []⟩ ∧
        decode.op = ⟨place scope.table type, "msg.get<" ++ decode.spelling ++ ">", []⟩)
      (mapping .encode scope type) (mapping .decode scope type) := by
  rw [mapping, mapping]
  refine (SameOutcome.refl (valueType scope.customTypes type)).bind fun value other h => ?_
  subst h
  exact .ok ⟨rfl, rfl⟩

end Cpp

/-- Mappings whose operations take a value from one place, with equally many arguments. -/
structure TypeMapping.SameKind (encode decode : TypeMapping) : Prop where
  place : encode.op.place = decode.op.place
  extraArgs : encode.op.extraArgs.length = decode.op.extraArgs.length

theorem Language.mapping_outcome (language : Language) (scope : TypeScope) (type : TypeName) :
    SameOutcome TypeMapping.SameKind (language.mappingSet.mapping? .encode scope type)
      (language.mappingSet.mapping? .decode scope type) := by
  cases language with
  | java =>
    refine (Java.mapping_outcome scope type).mono fun encode decode h => ?_
    exact ⟨h.place, h.extraArgs.length_eq⟩
  | cpp =>
    refine (Cpp.mapping_outcome scope type).mono fun encode decode ⟨he, hd⟩ => ?_
    exact ⟨by rw [he, hd], by rw [he, hd]⟩

end WireCodecs
