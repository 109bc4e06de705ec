import WireCodecs.Codec.Java.Template
import WireCodecs.Proofs.Codec.Declarations

/-! The constants of the Java codec classes. A class declares a message type for each of its
messages and the chain of offsets of each, all behind the lead of the message. Constants of
different kinds end differently, and the leads of requests, responses and events begin differently.
So a constant can be declared twice only where two events have one lead, where two fields of a
message have one form, or where the fields of two events have one form together with the labels. -/

namespace WireCodecs.Java

def Constant.declaration (constant : Constant) : Declaration :=
  ⟨"private static final int ", constant.name, constant.definition⟩

def messageTypeDeclaration (lead : String) (id : MessageId) : Declaration :=
  ⟨"public static final int ", messageTypeName lead, toString id.value⟩

def offsetDeclarations (lead base : String) (plan : Plan) : List Declaration :=
  (offsets lead base plan).map (·.declaration)

def eventDeclarations (event : PlannedEvent) : List Declaration :=
  messageTypeDeclaration (eventLead event.label) event.id ::
  offsetDeclarations (eventLead event.label) eventBase event.plans.encode

/-- The declarations in the class of a method. -/
def PlannedMethod.declarations (method : Method) (plan : PlannedMethod) : List Declaration :=
  messageTypeDeclaration requestLead method.request.id ::
  messageTypeDeclaration responseLead method.response.id ::
  (offsetDeclarations requestLead requestBase plan.request.encode ++
    (offsetDeclarations responseLead responseBase plan.response.encode ++
      plan.events.flatMap eventDeclarations))

/-- The declarations in the class of a custom type. -/
def customDeclarations (plans : Plans) : List Declaration :=
  if plans.encode.fixed.isEmpty then [] else offsetDeclarations "" "0" plans.encode

section Names

theorem map_name_offsetChain (lead start : String) (fixed : List PlannedField) :
    (offsetChain lead start fixed).map (·.name) =
      fixed.map (fun planned => offsetName lead planned.field) ++ [frameSizeName lead] := by
  induction fixed generalizing start with
  | nil => rfl
  | cons planned rest ih => exact congrArg (_ :: ·) (ih _)

/-- The names of the offsets behind a lead. -/
def offsetNames (lead : String) (plan : Plan) : List String :=
  plan.fixed.map fun planned => offsetName lead planned.field

theorem names_of_offsetDeclarations (lead base : String) (plan : Plan) :
    (offsetDeclarations lead base plan).map (·.name) =
      offsetNames lead plan ++ [frameSizeName lead] := by
  rw [offsetDeclarations, List.map_map]
  exact map_name_offsetChain lead base plan.fixed

section Kinds

variable (lead : String)

theorem ending_messageTypeName : ending (messageTypeName lead) = ['E', 'P', 'Y'] :=
  ending_append (by decide) lead

theorem ending_frameSizeName : ending (frameSizeName lead) = ['E', 'Z', 'I'] :=
  ending_append (by decide) lead

theorem ending_offsetName (field : Field) : ending (offsetName lead field) = ['T', 'E', 'S'] :=
  ending_append (by decide) _

theorem ending_of_mem_offsetNames {plan : Plan} {name : String} (h : name ∈ offsetNames lead plan) :
    ending name = ['T', 'E', 'S'] := by
  obtain ⟨planned, -, rfl⟩ := List.mem_map.mp h
  exact ending_offsetName lead planned.field

theorem beginning_of_mem_offsetNames {plan : Plan} {name : String}
    (hlead : 3 ≤ lead.toList.length) (h : name ∈ offsetNames lead plan) :
    beginning name = beginning lead := by
  obtain ⟨planned, -, rfl⟩ := List.mem_map.mp h
  rw [offsetName, String.append_assoc]
  exact beginning_append hlead _

end Kinds

theorem nodup_offsetNames_iff (lead : String) (plan : Plan) :
    (offsetNames lead plan).Nodup ↔
      (plan.fixed.map fun planned => Naming.upperSnake planned.field.name).Nodup :=
  nodup_map_iff_of_between _ _ fun _ => rfl

/-- The names that the class of a method has behind one lead. -/
def partNames (part : String × Plan) : List String :=
  messageTypeName part.1 :: (offsetNames part.1 part.2 ++ [frameSizeName part.1])

theorem nodup_partNames_iff (parts : List (String × Plan)) :
    (parts.flatMap partNames).Nodup ↔
      (parts.map (·.1)).Nodup ∧ (parts.flatMap fun part => offsetNames part.1 part.2).Nodup := by
  have hkinds : (parts.flatMap partNames).Perm (parts.map (messageTypeName ·.1) ++
      ((parts.flatMap fun part => offsetNames part.1 part.2) ++
        parts.map (frameSizeName ·.1))) := by
    refine (List.map_append_flatMap_perm parts _ _).symm.trans (List.Perm.append_left _ ?_)
    rw [List.map_eq_flatMap]
    exact (List.flatMap_append_perm parts _ _).symm
  have htypes : ∀ name ∈ parts.map (messageTypeName ·.1), ending name = ['E', 'P', 'Y'] :=
    List.forall_mem_map.mpr fun part _ => ending_messageTypeName part.1
  have hsizes : ∀ name ∈ parts.map (frameSizeName ·.1), ending name = ['E', 'Z', 'I'] :=
    List.forall_mem_map.mpr fun part _ => ending_frameSizeName part.1
  have hoffsets : ∀ name ∈ parts.flatMap fun part => offsetNames part.1 part.2,
      ending name = ['T', 'E', 'S'] := by
    intro name hname
    obtain ⟨part, -, hpart⟩ := List.mem_flatMap.mp hname
    exact ending_of_mem_offsetNames part.1 hpart
  rw [hkinds.nodup_iff, nodup_append_iff_of_key ending _ htypes ?others,
    nodup_append_iff_of_key ending _ hoffsets ?sizes]
  case others =>
    intro name hname
    rcases List.mem_append.mp hname with hname | hname
    · rw [hoffsets name hname]
      decide
    · rw [hsizes name hname]
      decide
  case sizes =>
    intro name hname
    rw [hsizes name hname]
    decide
  have hmessageTypes : (parts.map (messageTypeName ·.1)).Nodup ↔ (parts.map (·.1)).Nodup :=
    nodup_map_iff_of_between "" "MESSAGE_TYPE" (by simp [messageTypeName])
  have hframeSizes : (parts.map (frameSizeName ·.1)).Nodup ↔ (parts.map (·.1)).Nodup :=
    nodup_map_iff_of_between "" "INITIAL_FRAME_SIZE" (by simp [frameSizeName])
  rw [hmessageTypes, hframeSizes]
  tauto

end Names

section Methods

/-- The leads of the messages of a method, each with the plan of the message. -/
def PlannedMethod.parts (plan : PlannedMethod) : List (String × Plan) :=
  (requestLead, plan.request.encode) :: (responseLead, plan.response.encode) ::
    plan.events.map fun event => (eventLead event.label, event.plans.encode)

theorem names_perm_partNames (method : Method) (plan : PlannedMethod) :
    ((plan.declarations method).map (·.name)).Perm (plan.parts.flatMap partNames) := by
  have hevents : (plan.events.flatMap eventDeclarations).map (·.name) =
      plan.events.flatMap fun event => partNames (eventLead event.label, event.plans.encode) := by
    rw [List.map_flatMap]
    refine congrArg (plan.events.flatMap ·) (funext fun event => ?_)
    rw [eventDeclarations, List.map_cons, names_of_offsetDeclarations]
    rfl
  rw [PlannedMethod.declarations, PlannedMethod.parts, List.flatMap_cons, List.flatMap_cons,
    List.flatMap_map, ← hevents]
  simp only [List.map_cons, List.map_append, names_of_offsetDeclarations]
  exact .cons _ List.perm_middle.symm

theorem beginning_eventLead (label : String) : beginning (eventLead label) = ['E', 'V', 'E'] := by
  rw [eventLead, String.append_assoc]
  exact beginning_append (by decide) _

theorem nodup_leads_iff (plan : PlannedMethod) :
    (plan.parts.map (·.1)).Nodup ↔
      (plan.events.map fun event => Naming.upperSnake event.label).Nodup := by
  have hevents : ∀ name ∈ plan.events.map fun event => eventLead event.label,
      beginning name = ['E', 'V', 'E'] :=
    List.forall_mem_map.mpr fun event _ => beginning_eventLead event.label
  have hlabels : (plan.events.map fun event => eventLead event.label).Nodup ↔
      (plan.events.map fun event => Naming.upperSnake event.label).Nodup :=
    nodup_map_iff_of_between _ _ fun _ => rfl
  have hleads : plan.parts.map (·.1) =
      [requestLead] ++ ([responseLead] ++ plan.events.map fun event => eventLead event.label) := by
    rw [PlannedMethod.parts, List.map_cons, List.map_cons, List.map_map]
    rfl
  rw [hleads, nodup_roles_iff (by decide) (by decide) hevents, hlabels]
  simp only [List.nodup_singleton, true_and]

theorem nodup_offsets_iff (plan : PlannedMethod) :
    (plan.parts.flatMap fun part => offsetNames part.1 part.2).Nodup ↔
      (plan.request.encode.fixed.map fun planned => Naming.upperSnake planned.field.name).Nodup ∧
      (plan.response.encode.fixed.map fun planned => Naming.upperSnake planned.field.name).Nodup ∧
      (plan.events.flatMap fun event => event.plans.encode.fixed.map fun planned =>
        Naming.upperSnake event.label ++ "_" ++ Naming.upperSnake planned.field.name).Nodup := by
  have hevents : (plan.events.flatMap fun event =>
        offsetNames (eventLead event.label) event.plans.encode) =
      (plan.events.flatMap fun event => event.plans.encode.fixed.map fun planned =>
          Naming.upperSnake event.label ++ "_" ++ Naming.upperSnake planned.field.name).map
        fun form => "EVENT_" ++ form ++ "_FIELD_OFFSET" := by
    simp [List.map_flatMap, offsetNames, offsetName, eventLead, String.append_assoc,
      Function.comp_def]
  have hbeginning : ∀ name ∈ plan.events.flatMap fun event =>
      offsetNames (eventLead event.label) event.plans.encode, beginning name = ['E', 'V', 'E'] := by
    intro name hname
    obtain ⟨event, -, hevent⟩ := List.mem_flatMap.mp hname
    rw [beginning_of_mem_offsetNames _ (by simp [eventLead]) hevent, beginning_eventLead]
  have hrequest : ∀ name ∈ offsetNames requestLead plan.request.encode,
      beginning name = ['R', 'E', 'Q'] := fun _ =>
    beginning_of_mem_offsetNames requestLead (by decide)
  have hresponse : ∀ name ∈ offsetNames responseLead plan.response.encode,
      beginning name = ['R', 'E', 'S'] := fun _ =>
    beginning_of_mem_offsetNames responseLead (by decide)
  rw [PlannedMethod.parts, List.flatMap_cons, List.flatMap_cons, List.flatMap_map,
    nodup_roles_iff hrequest hresponse hbeginning, nodup_offsetNames_iff, nodup_offsetNames_iff,
    hevents, nodup_map_iff_of_between _ _ fun _ => rfl, List.map_id']

/-- The constants of a method's class are distinct exactly if the forms of the names are. -/
theorem nodup_declarations_iff {scope : RenderScope} {method : Method} {plan : PlannedMethod}
    (h : planMethod scope method = .ok plan) :
    ((plan.declarations method).map (·.name)).Nodup ↔ method.FormsDiffer scope.types.table := by
  obtain ⟨hrequest, hresponse, hevents⟩ := planMethod_eq_ok_iff.mp h
  rw [(names_perm_partNames method _).nodup_iff, nodup_partNames_iff, nodup_leads_iff,
    nodup_offsets_iff,
    RenderScope.fixedForms_of_plan (RenderScope.plans_eq_ok_iff.mp hrequest).1,
    RenderScope.fixedForms_of_plan (RenderScope.plans_eq_ok_iff.mp hresponse).1,
    RenderScope.labelForms_of_planEvents hevents, RenderScope.eventFieldForms_of_planEvents hevents]
  exact ⟨fun ⟨hlabels, hfirst, hsecond, hfields⟩ => ⟨hfirst, hsecond, hlabels, hfields⟩,
    fun hdiffer => ⟨hdiffer.labels, hdiffer.request, hdiffer.response, hdiffer.eventFields⟩⟩

end Methods

theorem nodup_customDeclarations_iff {scope : RenderScope} {fields : List Field} {plans : Plans}
    (h : scope.plans fields = .ok plans) :
    ((customDeclarations plans).map (·.name)).Nodup ↔
      (scope.types.table.fixedForms fields).Nodup := by
  rw [← RenderScope.fixedForms_of_plan (RenderScope.plans_eq_ok_iff.mp h).1, customDeclarations]
  split
  · next hempty => simp [List.isEmpty_iff.mp hempty]
  · rw [names_of_offsetDeclarations,
      nodup_append_iff_of_key ending _ (fun _ => ending_of_mem_offsetNames "") (by decide),
      nodup_offsetNames_iff, and_iff_left (List.nodup_singleton _)]

end WireCodecs.Java
