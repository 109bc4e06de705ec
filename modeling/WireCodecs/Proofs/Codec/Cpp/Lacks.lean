import WireCodecs.Codec.Cpp.Template
import WireCodecs.Proofs.Codec.Lacks

/-! The names in a C++ codec lack what the names in the documents lack. -/

namespace WireCodecs.Cpp

open Text

variable {p : Char → Bool} [Structural p]

theorem lacks_structName {service method : String} (hservice : Lacks p service)
    (hmethod : Lacks p method) : Lacks p (structName service method) :=
  .append (.append (.append hservice.snake (.literal rfl)) hmethod.snake) (.literal rfl)

theorem lacks_declare {typeName name : String} (htype : Lacks p typeName) (hname : Lacks p name) :
    Lacks p (declare typeName name) := by
  unfold declare
  split
  · exact htype.append hname
  · exact htype.append hname
  · exact .append (.append htype (.literal rfl)) hname

theorem lacks_parameter {encode decode : PlannedField} (hencode : encode.TextsLack p)
    (hdecode : decode.TextsLack p) : Lacks p (parameter encode decode) := by
  unfold parameter
  split
  · exact lacks_declare (.between rfl rfl hdecode.mapping.spelling) hencode.parameter
  · exact lacks_declare hencode.mapping.spelling hencode.parameter

theorem lacks_parameterList {plans : Plans} (hencode : plans.encode.TextsLack p)
    (hdecode : plans.decode.TextsLack p) : Lacks p (parameterList plans) := by
  refine .joinWith (.literal rfl) fun text hmem => ?_
  rw [← List.map_uncurry_zip_eq_zipWith] at hmem
  obtain ⟨⟨encode, decode⟩, hpair, rfl⟩ := List.mem_map.mp hmem
  exact lacks_parameter (hencode encode (List.of_mem_zip hpair).1)
    (hdecode decode (List.of_mem_zip hpair).2)

theorem lacks_eventConstant {event : PlannedEvent} (h : Lacks p event.label) :
    Lacks p (eventConstant event) :=
  .between rfl rfl h.upperSnake

end WireCodecs.Cpp
