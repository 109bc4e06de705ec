import WireCodecs.Proofs.Codec.Cpp.Nulls

/-! The order of the fields in the C++ codecs. Both functions of a custom type visit the fields in
wire order, while the value is constructed from them in the order of their declaration. The encoder
of a request sets the fields in wire order too, and says of the last one that it ends the message if
that is a framed one. -/

namespace WireCodecs.Cpp

variable {types : TypeScope} {namespaceName : String} {fields : List Field} {plan : Plan}

section Custom

/-- The line that reads a field's value as its type into the variable of its name, whether the value
can be absent or not. -/
def GetsInto (types : TypeScope) (field : Field) (code : Code Empty) : Prop :=
  ∃ getter ∈ ["msg.get", "msg.get_nullable"], ∃ typeName,
    valueType types.customTypes field.type = .ok typeName ∧
    code = .line ("auto " ++ mappingSet.parameter field.name ++ " = " ++
      (getter ++ "<" ++ typeName ++ ">()") ++ ";")

theorem getsInto_of_decode {planned : PlannedField}
    (hname : planned.parameter = mappingSet.parameter planned.field.name)
    (h : mapping .decode types planned.field.type = .ok planned.mapping) (nullable : Bool) :
    GetsInto types planned.field (DecodeStep.get planned nullable).code := by
  have htype : valueType types.customTypes planned.field.type = .ok planned.mapping.spelling :=
    spelling_of_decode h
  have hinvoke : planned.op.invoke [] = "msg.get<" ++ planned.mapping.spelling ++ ">()" :=
    invoke_of_decode h
  cases nullable with
  | true =>
    refine ⟨"msg.get_nullable", List.mem_cons_of_mem _ List.mem_cons_self,
      planned.mapping.spelling, htype, ?_⟩
    simp [DecodeStep.code, hname]
  | false =>
    refine ⟨"msg.get", List.mem_cons_self, planned.mapping.spelling, htype, ?_⟩
    simp [DecodeStep.code, hinvoke, hname]

/-- The values of a message are read in wire order. -/
theorem getsInto_decodeFields
    (h : RenderScope.plan ⟨mappingSet, types, namespaceName⟩ .decode fields = .ok plan) :
    List.Forall₂ (GetsInto types) (types.table.wireOrder fields)
      ((decodeFields plan).map (·.code)) := by
  have hpart : ∀ (part : List PlannedField) (nullable : PlannedField → Bool),
      (∀ planned ∈ part, planned ∈ plan.fields) →
      List.Forall₂ (GetsInto types) (part.map (·.field))
        ((part.map fun planned => DecodeStep.get planned (nullable planned)).map (·.code)) := by
    intro part nullable hmem
    rw [List.map_map, List.forall₂_map_left_iff, List.forall₂_map_right_iff, List.forall₂_same]
    intro planned hplanned
    exact getsInto_of_decode (RenderScope.parameter_of_plan h (hmem planned hplanned))
      (RenderScope.mapping_of_plan h (hmem planned hplanned)) _
  rw [← RenderScope.wireOrder_of_plan h, List.map_append, decodeFields, List.map_append]
  exact List.rel_append (hpart plan.fixed _ fun _ => List.mem_of_mem_filter)
    (hpart plan.framed _ fun _ => List.mem_of_mem_filter)

end Custom

section Requests

/-- What the encoder of a request does before it sets a field: it creates the message and fills in
what no field says. -/
def requestOpening (service : String) (method : Method) : List (Code Empty) := [
  .line "ClientMessage msg(REQUEST_INITIAL_FRAME_SIZE);",
  .line "msg.set_retryable(false);",
  .line ("msg.set_operation_name(\"" ++ service ++ "." ++ method.name ++ "\");"),
  .blank,
  .line ("//hex: " ++ method.request.id.hex),
  .line "msg.set_message_type(REQUEST_MESSAGE_TYPE);",
  .line "msg.set_partition_id(-1);",
  .blank]

theorem trace_requestEncoder (name service : String) (method : Method) (plans : Plans)
    (depth : Nat) :
    (requestEncoder name service method plans).trace depth =
      (Code.braces ("ClientMessage " ++ name ++ "::encode_request(" ++ parameterList plans ++ ")")
        (requestOpening service method ++ (encodeRequest plans.encode).map (·.code) ++
          [.line "return msg;"])).trace depth := by
  simp [requestEncoder, Code.braces, Code.trace, requestOpening]

end Requests

end WireCodecs.Cpp
