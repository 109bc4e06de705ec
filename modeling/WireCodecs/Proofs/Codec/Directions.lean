import WireCodecs.Proofs.Codec.Plan
import WireCodecs.Proofs.Target.Counterparts

/-! Encoders and decoders of one language fit together: a type is mapped in both directions or in
neither, to operations that correspond to each other, and a message is planned in both directions
or in neither, with the same layout. -/

namespace WireCodecs

/-- In each language the two directions fail together and for the same reason, for types and for
messages; otherwise their calls, places and arguments correspond and their plans have one
layout. -/
theorem directions_correspond :
    (∀ (language : Language) (scope : TypeScope) (type : TypeName),
      SameOutcome TypeMapping.SameKind (language.mappingSet.mapping? .encode scope type)
        (language.mappingSet.mapping? .decode scope type)) ∧
    (∀ (scope : TypeScope) (type : TypeName),
      SameOutcome (fun encode decode : TypeMapping =>
          Counterparts "." encode.op.call decode.op.call ∧
          List.Forall₂ (Counterparts "::") encode.op.extraArgs decode.op.extraArgs)
        (Language.java.mappingSet.mapping? .encode scope type)
        (Language.java.mappingSet.mapping? .decode scope type)) ∧
    (∀ (scope : TypeScope) (type : TypeName),
      SameOutcome (fun encode decode : TypeMapping =>
          encode.op.call = "msg.set" ∧ decode.op.call = "msg.get<" ++ decode.spelling ++ ">")
        (Language.cpp.mappingSet.mapping? .encode scope type)
        (Language.cpp.mappingSet.mapping? .decode scope type)) ∧
    (∀ (language : Language) (types : TypeScope) (namespaceName : String) (fields : List Field),
      SameOutcome Plan.SameLayout
        (RenderScope.plan ⟨language.mappingSet, types, namespaceName⟩ .encode fields)
        (RenderScope.plan ⟨language.mappingSet, types, namespaceName⟩ .decode fields)) := by
  refine ⟨Language.mapping_outcome, ?java, ?cpp, ?plans⟩
  case java =>
    intro scope type
    exact (Java.mapping_outcome scope type).mono fun encode decode h => ⟨h.call, h.extraArgs⟩
  case cpp =>
    intro scope type
    refine (Cpp.mapping_outcome scope type).mono fun encode decode ⟨he, hd⟩ => ?_
    exact ⟨by rw [he], by rw [hd]⟩
  case plans =>
    intro language types namespaceName fields
    refine RenderScope.plan_outcome (fun type => ?_) fields
    exact (language.mapping_outcome types type).mono fun encode decode h => h.place

end WireCodecs
