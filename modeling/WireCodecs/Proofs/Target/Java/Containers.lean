import WireCodecs.Proofs.Outcome
import WireCodecs.Proofs.TypeName.Parts
import WireCodecs.Target.Java

/-! Containers in Java. The four kinds of containers are mapped in one way: the elements are
spelled first, and unless the shape is fixed the codecs of the elements are referred to. The kind
decides how the spellings are put together and which codec takes the references. -/

namespace WireCodecs.Java

theorem mem_of_lookup {α : Type} {table : List (String × α)} {name : String} {entry : α}
    (h : table.lookup name = some entry) : (name, entry) ∈ table := by
  obtain ⟨before, after, hsplit, -⟩ := List.lookup_eq_some_iff.mp h
  simp [hsplit]

/-- The spelling of a container whose elements have the given spellings. -/
def containerSpelling (direction : Direction) (type : TypeName) (elements : List String) : String :=
  let arguments := Text.joinWith ", " elements
  match type with
  | .map _ _ => "java.util.Map<" ++ arguments ++ ">"
  | .entryList _ _ => collection direction ++ "<java.util.Map.Entry<" ++ arguments ++ ">>"
  | _ => collection direction ++ "<" ++ arguments ++ ">"

/-- The codec class of a container whose shape is not fixed. -/
def containerCodec : TypeName → String
  | .map _ _ => "MapCodec"
  | .entryList _ _ => "EntryListCodec"
  | _ => "ListMultiFrameCodec"

def containerVerb (direction : Direction) : TypeName → String
  | .nullableList _ => direction.verb ++ "ContainsNullable"
  | _ => direction.verb

theorem mapping_of_isContainer (direction : Direction) (scope : TypeScope)
    {type : TypeName} (h : type.isContainer) :
    mapping direction scope type = (do
      let spellings ← type.elements.mapM fun element =>
        elementSpelling element (mapping direction scope element)
      containerMapping direction scope type (containerSpelling direction type spellings)
        (containerCodec type) (containerVerb direction type)
        (type.elements.mapM fun element =>
          elementReference element (mapping direction scope element))) := by
  cases type with
  | primitive _ | custom _ | enum _ _ => cases h
  | list _ | nullableList _ | map _ _ | entryList _ _ =>
    simp only [mapping, TypeName.elements, List.mapM_cons, List.mapM_nil, bind_assoc, pure_bind,
      containerSpelling, Text.joinWith, String.append_assoc, containerCodec, containerVerb]

end WireCodecs.Java
