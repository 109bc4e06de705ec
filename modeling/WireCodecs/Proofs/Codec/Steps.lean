import WireCodecs.Proofs.Codec.Fields

/-! Encoders and decoders as lists of steps. Some of the steps are for a field and the others for
the frames around the fields. What matters of a list is the fields that its steps are for, in order,
and that each of these steps is made from its field in the same way. -/

namespace WireCodecs

namespace Plan

variable {plan : Plan} {planned : PlannedField}

theorem isFixed_of_mem_fixed (h : planned ∈ plan.fixed) : planned.isFixed = true :=
  (List.mem_filter.mp h).2

theorem isFixed_of_mem_framed (h : planned ∈ plan.framed) : planned.isFixed = false := by
  simpa using (List.mem_filter.mp h).2

theorem mem_fields_of_mem_parts (h : planned ∈ plan.fixed ++ plan.framed) : planned ∈ plan.fields :=
  (List.mem_append.mp h).elim List.mem_of_mem_filter List.mem_of_mem_filter

end Plan

section Steps

variable {α : Type} {planned? : α → Option PlannedField} {ofField : PlannedField → α}

/-- Among the steps, those for a field are made from the given fields, one from each and in order.
-/
inductive StepsFor (planned? : α → Option PlannedField) (ofField : PlannedField → α) :
    List α → List PlannedField → Prop where
  | nil : StepsFor planned? ofField [] []
  | skip {step : α} {steps : List α} {fields : List PlannedField} (h : planned? step = none) :
    StepsFor planned? ofField steps fields → StepsFor planned? ofField (step :: steps) fields
  | field {planned : PlannedField} {steps : List α} {fields : List PlannedField}
      (h : planned? (ofField planned) = some planned) :
    StepsFor planned? ofField steps fields →
    StepsFor planned? ofField (ofField planned :: steps) (planned :: fields)

namespace StepsFor

variable {steps : List α} {fields : List PlannedField}

theorem append (h : StepsFor planned? ofField steps fields) {more : List α}
    {others : List PlannedField} (hmore : StepsFor planned? ofField more others) :
    StepsFor planned? ofField (steps ++ more) (fields ++ others) := by
  induction h with
  | nil => exact hmore
  | skip hnone _ ih => exact .skip hnone ih
  | field hsome _ ih => exact .field hsome ih

theorem concat (h : StepsFor planned? ofField steps fields) {step : α}
    (hstep : planned? step = none) : StepsFor planned? ofField (steps ++ [step]) fields := by
  rw [← List.append_nil fields]
  exact h.append (.skip hstep .nil)

theorem map (h : ∀ planned, planned? (ofField planned) = some planned) {step : PlannedField → α}
    (hstep : ∀ planned ∈ fields, ofField planned = step planned) :
    StepsFor planned? ofField (fields.map step) fields := by
  induction fields with
  | nil => exact .nil
  | cons planned fields ih =>
    rw [List.map_cons, ← hstep planned List.mem_cons_self]
    exact .field (h planned) (ih fun other hother => hstep other (List.mem_cons_of_mem _ hother))

theorem filterMap_eq (h : StepsFor planned? ofField steps fields) :
    steps.filterMap planned? = fields := by
  induction h with
  | nil => rfl
  | skip hnone _ ih => rw [List.filterMap_cons_none hnone, ih]
  | field hsome _ ih => rw [List.filterMap_cons_some hsome, ih]

/-- A step for a field is the one that is made from it. -/
theorem eq_ofField (h : StepsFor planned? ofField steps fields) {step : α} (hmem : step ∈ steps)
    {planned : PlannedField} (hplanned : planned? step = some planned) :
    planned ∈ fields ∧ step = ofField planned := by
  induction h with
  | nil => cases hmem
  | skip hnone _ ih =>
    rcases List.mem_cons.mp hmem with rfl | hmem
    · rw [hnone] at hplanned
      cases hplanned
    · exact ih hmem
  | field hsome _ ih =>
    rcases List.mem_cons.mp hmem with rfl | hmem
    · obtain rfl := Option.some.inj (hsome.symm.trans hplanned)
      exact ⟨List.mem_cons_self, rfl⟩
    · obtain ⟨hfield, hstep⟩ := ih hmem
      exact ⟨List.mem_cons_of_mem _ hfield, hstep⟩

end StepsFor

end Steps

/-- What holds for the chosen one of two forms and never for both tells which of them is chosen. -/
theorem iff_chosen {α : Type} {P : α → Prop} {c : Prop} [Decidable c] {first second : α}
    (h : P (if c then first else second)) (hexcl : P second → ¬ P first) :
    (P first ↔ c) ∧ (P second ↔ ¬ c) := by
  split at h
  · next hc =>
    exact ⟨iff_of_true h hc, iff_of_false (fun hsecond => hexcl hsecond h) (not_not_intro hc)⟩
  · next hc => exact ⟨iff_of_false (hexcl h) hc, iff_of_true h hc⟩

section Messages

variable {α : Type} {planned? : α → Option PlannedField} {steps : List α} {table : TypeTable}
  {fields : List Field}

theorem StepsFor.wireOrder {ofField : PlannedField → α} {scope : RenderScope}
    {direction : Direction} {plan : Plan}
    (h : StepsFor planned? ofField steps (plan.fixed ++ plan.framed))
    (hplan : scope.plan direction fields = .ok plan) :
    (steps.filterMap planned?).map (·.field) = scope.types.table.wireOrder fields := by
  rw [h.filterMap_eq, RenderScope.wireOrder_of_plan hplan]

/-- Where the fields of the steps are those of a message, every field has a step. -/
theorem exists_step_of_mem
    (h : (steps.filterMap planned?).map (·.field) = table.wireOrder fields) {field : Field}
    (hmem : field ∈ fields) :
    ∃ step ∈ steps, ∃ planned, planned? step = some planned ∧ planned.field = field := by
  have hordered := (table.wireOrder_perm fields).mem_iff.mpr hmem
  rw [← h] at hordered
  obtain ⟨planned, hplanned, hfield⟩ := List.mem_map.mp hordered
  obtain ⟨step, hstep, hsome⟩ := List.mem_filterMap.mp hplanned
  exact ⟨step, hstep, planned, hsome, hfield⟩

end Messages

end WireCodecs
