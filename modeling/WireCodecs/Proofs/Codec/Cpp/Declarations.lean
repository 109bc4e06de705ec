import WireCodecs.Codec.Cpp.Template
import WireCodecs.Proofs.Codec.Declarations

/-! The constants of the C++ method structs: a message type for each message and the size of the
initial frame of a request. Only the message types of two events can have one name. -/

namespace WireCodecs.Cpp

def messageTypeDeclaration (constant : String) (id : MessageId) : Declaration :=
  ⟨"static constexpr int32_t ", constant, toString id.value⟩

/-- What the size of the initial frame of a request is defined as. -/
def requestFrameSize (plan : Plan) : String :=
  "ClientMessage::REQUEST_HEADER_LEN + " ++ toString plan.fixedSize

def frameSizeDeclaration (plan : Plan) : Declaration :=
  ⟨"static constexpr size_t ", "REQUEST_INITIAL_FRAME_SIZE", requestFrameSize plan⟩

/-- The declarations in the struct of a method. -/
def PlannedMethod.declarations (method : Method) (plan : PlannedMethod) : List Declaration :=
  messageTypeDeclaration "REQUEST_MESSAGE_TYPE" method.request.id ::
  messageTypeDeclaration "RESPONSE_MESSAGE_TYPE" method.response.id ::
  (plan.events.map (fun event => messageTypeDeclaration (eventConstant event) event.id) ++
    [frameSizeDeclaration plan.request.encode])

/-- The struct of a method declares a constant twice exactly if two labels have one form. -/
theorem nodup_declarations_iff {scope : RenderScope} {method : Method} {plan : PlannedMethod}
    (h : planMethod scope method = .ok plan) :
    ((plan.declarations method).map (·.name)).Nodup ↔ method.labelForms.Nodup := by
  rw [← RenderScope.labelForms_of_planEvents (planMethod_eq_ok_iff.mp h).2]
  have hnames : ((plan.declarations method).map (·.name)).Perm
      (["REQUEST_MESSAGE_TYPE", "REQUEST_INITIAL_FRAME_SIZE"] ++
        (["RESPONSE_MESSAGE_TYPE"] ++ plan.events.map eventConstant)) := by
    rw [PlannedMethod.declarations, List.map_cons, List.map_cons, List.map_append, List.map_map]
    exact .cons _ (List.perm_append_singleton "REQUEST_INITIAL_FRAME_SIZE" (_ :: _))
  have hevents : ∀ name ∈ plan.events.map eventConstant, beginning name = ['E', 'V', 'E'] := by
    refine List.forall_mem_map.mpr fun event _ => ?_
    rw [eventConstant, String.append_assoc]
    exact beginning_append (by decide) _
  have hlabels : (plan.events.map eventConstant).Nodup ↔
      (plan.events.map fun event => Naming.upperSnake event.label).Nodup :=
    nodup_map_iff_of_between _ _ fun _ => rfl
  rw [hnames.nodup_iff, nodup_roles_iff (by decide) (by decide) hevents, hlabels]
  simp

end WireCodecs.Cpp
