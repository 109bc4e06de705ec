import WireCodecs.Codec.Cpp.Template
import WireCodecs.Codec.Java.Template
import WireCodecs.Proofs.Codec.Plan

/-! Which fields a plan is for. It has every field of a message once and in order, as the field
would be planned alone, so its fixed part and its frames have the fields with a width and the
others. The events of a method are planned one by one, like messages, and a method is planned if all
of its messages are. -/

namespace WireCodecs

/-- Fields as a message has them: those with a width before the others. -/
def TypeTable.wireOrder (table : TypeTable) (fields : List Field) : List Field :=
  (table.partitionFields fields).1 ++ (table.partitionFields fields).2

theorem TypeTable.wireOrder_perm (table : TypeTable) (fields : List Field) :
    (table.wireOrder fields).Perm fields := by
  rw [wireOrder, partitionFields, List.partition_eq_filter_filter]
  exact List.filter_append_perm _ fields

namespace RenderScope

variable {scope : RenderScope} {direction : Direction} {fields : List Field} {plan : Plan}

theorem planField_of_mem (h : scope.plan direction fields = .ok plan) {planned : PlannedField}
    (hmem : planned ∈ plan.fields) :
    ∃ field ∈ fields, scope.planField direction field = .ok planned := by
  obtain ⟨all, hall, h⟩ := bind_eq_ok_iff.mp h
  rw [pure_eq_ok_iff.mp h] at hmem
  exact exists_mem_of_mapM hall hmem

theorem fields_of_plan (h : scope.plan direction fields = .ok plan) :
    plan.fields.map (·.field) = fields := by
  obtain ⟨all, hall, h⟩ := bind_eq_ok_iff.mp h
  rw [pure_eq_ok_iff.mp h, ← List.map_id fields]
  refine map_eq_of_mapM (fun field planned hfield => ?_) hall
  obtain ⟨mapping, -, -, rfl⟩ := planField_eq_ok_iff.mp hfield
  rfl

/-- The parameters stand in the order of the declaration, also where the fields travel in another.
-/
theorem parameters_of_plan (h : scope.plan direction fields = .ok plan) :
    plan.parameters = fields.map fun field => scope.set.parameter field.name := by
  obtain ⟨all, hall, h⟩ := bind_eq_ok_iff.mp h
  rw [pure_eq_ok_iff.mp h]
  refine map_eq_of_mapM (fun field planned hfield => ?_) hall
  obtain ⟨mapping, -, -, rfl⟩ := planField_eq_ok_iff.mp hfield
  rfl

theorem parameter_of_plan (h : scope.plan direction fields = .ok plan) {planned : PlannedField}
    (hmem : planned ∈ plan.fields) :
    planned.parameter = scope.set.parameter planned.field.name := by
  obtain ⟨field, -, hfield⟩ := planField_of_mem h hmem
  obtain ⟨mapping, -, -, rfl⟩ := planField_eq_ok_iff.mp hfield
  rfl

theorem isFixed_of_plan (h : scope.plan direction fields = .ok plan) {planned : PlannedField}
    (hmem : planned ∈ plan.fields) :
    planned.isFixed = (planned.field.type.fixedWidth? scope.types.table).isSome := by
  obtain ⟨field, -, hfield⟩ := planField_of_mem h hmem
  obtain ⟨mapping, -, hfixed, rfl⟩ := planField_eq_ok_iff.mp hfield
  exact hfixed.symm

theorem mapping_of_plan (h : scope.plan direction fields = .ok plan) {planned : PlannedField}
    (hmem : planned ∈ plan.fields) :
    scope.set.mapping? direction scope.types planned.field.type = .ok planned.mapping := by
  obtain ⟨field, -, hfield⟩ := planField_of_mem h hmem
  obtain ⟨mapping, hmapping, -, rfl⟩ := planField_eq_ok_iff.mp hfield
  exact hmapping

/-- Choosing among the planned fields by their place is choosing among the fields by their width. -/
theorem map_filter_of_plan (h : scope.plan direction fields = .ok plan) (select : Bool → Bool) :
    (plan.fields.filter fun planned => select planned.isFixed).map (·.field) =
      fields.filter fun field => select (field.type.fixedWidth? scope.types.table).isSome := by
  have hwidths : (plan.fields.filter fun planned => select planned.isFixed) =
      plan.fields.filter ((fun field => select (field.type.fixedWidth? scope.types.table).isSome) ∘
        (·.field)) :=
    List.filter_congr fun planned hmem => congrArg select (isFixed_of_plan h hmem)
  rw [hwidths, ← List.filter_map, fields_of_plan h]

theorem map_fixed_of_plan (h : scope.plan direction fields = .ok plan) :
    plan.fixed.map (·.field) = (scope.types.table.partitionFields fields).1 := by
  rw [TypeTable.partitionFields, List.partition_eq_filter_filter]
  exact map_filter_of_plan h id

theorem map_framed_of_plan (h : scope.plan direction fields = .ok plan) :
    plan.framed.map (·.field) = (scope.types.table.partitionFields fields).2 := by
  rw [TypeTable.partitionFields, List.partition_eq_filter_filter]
  exact map_filter_of_plan h not

theorem wireOrder_of_plan (h : scope.plan direction fields = .ok plan) :
    (plan.fixed ++ plan.framed).map (·.field) = scope.types.table.wireOrder fields := by
  rw [List.map_append, map_fixed_of_plan h, map_framed_of_plan h, TypeTable.wireOrder]

/-- Only a message with a field of some width has a fixed part. -/
theorem isEmpty_fixed_eq_false_iff (h : scope.plan direction fields = .ok plan) :
    plan.fixed.isEmpty = false ↔
      ∃ field ∈ fields, (field.type.fixedWidth? scope.types.table).isSome := by
  rw [List.isEmpty_eq_false_iff, ne_eq, ← List.map_eq_nil_iff, map_fixed_of_plan h,
    TypeTable.partitionFields, List.partition_eq_filter_filter, List.filter_eq_nil_iff]
  simp [Option.isSome_iff_ne_none]

theorem plans_eq_ok_iff {plans : Plans} :
    scope.plans fields = .ok plans ↔
      scope.plan .encode fields = .ok plans.encode ∧
        scope.plan .decode fields = .ok plans.decode := by
  cases plans
  simp [RenderScope.plans, bind_eq_ok_iff, map_eq_ok_iff]

/-- Whether an event is planned for a message, with the label that the message has at its index. -/
structure PlansEvent (scope : RenderScope) (entry : Message × Nat) (event : PlannedEvent) :
    Prop where
  label : event.label = eventLabel entry.2 entry.1
  id : event.id = entry.1.id
  plans : scope.plans entry.1.fields = .ok event.plans

theorem plansEvent_of_planEvents {messages : List Message} {index : Nat}
    {events : List PlannedEvent} (h : scope.planEvents index messages = .ok events) :
    List.Forall₂ scope.PlansEvent (messages.zipIdx index) events := by
  induction messages generalizing index events with
  | nil =>
    cases h
    exact .nil
  | cons message messages ih =>
    obtain ⟨plans, hplans, h⟩ := bind_eq_ok_iff.mp h
    obtain ⟨rest, hrest, h⟩ := bind_eq_ok_iff.mp h
    rw [pure_eq_ok_iff.mp h]
    exact .cons ⟨rfl, rfl, hplans⟩ (ih hrest)

/-- The events together with the messages that they are planned for. -/
theorem exists_entries_of_planEvents {messages : List Message} {index : Nat}
    {events : List PlannedEvent} (h : scope.planEvents index messages = .ok events) :
    ∃ entries : List ((Message × Nat) × PlannedEvent),
      entries.map (·.1) = messages.zipIdx index ∧ entries.map (·.2) = events ∧
      ∀ entry ∈ entries, scope.PlansEvent entry.1 entry.2 := by
  obtain ⟨hlength, hplanned⟩ := List.forall₂_iff_zip.mp (plansEvent_of_planEvents h)
  exact ⟨(messages.zipIdx index).zip events, List.map_fst_zip (Nat.le_of_eq hlength),
    List.map_snd_zip (Nat.le_of_eq hlength.symm), fun _ hentry => hplanned hentry⟩

theorem forall₂_of_planEvents {messages : List Message} {index : Nat} {events : List PlannedEvent}
    (h : scope.planEvents index messages = .ok events) :
    List.Forall₂ (fun message event => scope.plans message.fields = .ok event.plans)
      messages events := by
  have hplans : List.Forall₂ (fun message event => scope.plans message.fields = .ok event.plans)
      ((messages.zipIdx index).map (·.1)) events :=
    List.forall₂_map_left_iff.mpr
      ((plansEvent_of_planEvents h).imp fun _ _ hplanned => hplanned.plans)
  rwa [List.zipIdx_map_fst] at hplans

end RenderScope

section Methods

variable {scope : RenderScope} {method : Method}

theorem Java.planMethod_eq_ok_iff {plan : PlannedMethod} :
    planMethod scope method = .ok plan ↔
      scope.plans method.request.fields = .ok plan.request ∧
        scope.plans method.response.fields = .ok plan.response ∧
        scope.planEvents 0 method.events = .ok plan.events := by
  cases plan
  simp [planMethod, bind_eq_ok_iff, map_eq_ok_iff]

theorem Cpp.planMethod_eq_ok_iff {plan : PlannedMethod} :
    planMethod scope method = .ok plan ↔
      scope.plans method.request.fields = .ok plan.request ∧
        scope.planEvents 0 method.events = .ok plan.events := by
  cases plan
  simp [planMethod, bind_eq_ok_iff, map_eq_ok_iff]

end Methods

end WireCodecs
