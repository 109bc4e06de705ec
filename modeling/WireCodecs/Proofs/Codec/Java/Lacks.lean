import WireCodecs.Codec.Java.Template
import WireCodecs.Proofs.Codec.Lacks

/-! The names in a Java codec lack what the names in the documents lack. -/

namespace WireCodecs.Java

open Text

variable {p : Char → Bool} [Structural p] {planned : PlannedField} {plan : Plan}

theorem lacks_className {service method : String} (hservice : Lacks p service)
    (hmethod : Lacks p method) : Lacks p (className service method) :=
  .append (.append hservice.capital hmethod.capital) (.literal rfl)

theorem lacks_declare (h : planned.TextsLack p) : Lacks p (declare planned) :=
  (h.mapping.spelling.append (.literal rfl)).append h.parameter

theorem lacks_parameterList (h : plan.TextsLack p) : Lacks p (parameterList plan) :=
  .joinWith (.literal rfl) <|
    List.forall_mem_map.mpr fun planned hplanned => lacks_declare (h planned hplanned)

theorem lacks_offsetName {lead : String} (hlead : Lacks p lead) (h : planned.TextsLack p) :
    Lacks p (offsetName lead planned.field) :=
  (hlead.append h.name.upperSnake).append (.literal rfl)

theorem lacks_eventLead {label : String} (h : Lacks p label) : Lacks p (eventLead label) :=
  .between rfl rfl h.upperSnake

theorem lacks_of_mem_offsetChain {lead : String} (hlead : Lacks p lead)
    {fields : List PlannedField} (hfields : ∀ planned ∈ fields, planned.TextsLack p)
    {start : String} (hstart : Lacks p start) :
    ∀ constant ∈ offsetChain lead start fields,
      Lacks p constant.name ∧ Lacks p constant.definition := by
  induction fields generalizing start with
  | nil => exact List.forall_mem_singleton.mpr ⟨hlead.append (.literal rfl), hstart⟩
  | cons planned fields ih =>
    rw [List.forall_mem_cons] at hfields
    have hname := lacks_offsetName hlead hfields.1
    exact List.forall_mem_cons.mpr ⟨⟨hname, hstart⟩,
      ih hfields.2 ((hname.append (.literal rfl)).append (lacks_toString _))⟩

end WireCodecs.Java
