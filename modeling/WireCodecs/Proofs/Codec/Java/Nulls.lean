import WireCodecs.Proofs.Codec.Java.Coding

/-! Nulls in the Java codecs. A null travels as a null frame in place of the frames of the value.
The functions of a method look after it for exactly the nullable ones of their framed fields. Those
of a custom type do so only if the type has a field of some width as well. -/

namespace WireCodecs.Java

section Forms

/-- Writes a null frame for null, and makes the call for any other value. -/
def nullGuard (value call : String) : Code Empty :=
  .line ("if (" ++ value ++ " == null) \x7b") ++
  .line "    clientMessage.add(NULL_FRAME.copy());" ++
  .line "\x7d else \x7b" ++
  .line ("    " ++ call) ++
  .line "\x7d"

/-- What stands before the call in a line that reads a value or null. -/
def nullTest : String := "CodecUtil.nextFrameIsNullEndFrame(iterator) ? null : "

theorem nullGuard_ne_line (value call text : String) : nullGuard value call ≠ .line text := nofun

theorem nullGuard_inj {value call other : String}
    (h : nullGuard value call = nullGuard value other) : call = other := by
  injection h with hfront
  injection hfront with _ hcall
  exact String.append_right_inj _ |>.mp (Code.line.inj hcall)

theorem tested_ne_plain (target read : String) :
    target ++ " = " ++ nullTest ++ read ++ ";" ≠ target ++ " = " ++ read ++ ";" := by
  intro h
  have hlength := congrArg String.length h
  simp [nullTest] at hlength

end Forms

namespace Coding

/-- In both functions the framed fields with nulls are those that `handled` says. -/
structure HandlesNulls (table : TypeTable) (handled : Field → Prop) (coding : Coding) : Prop where
  encoder : ∀ step ∈ coding.encoder, ∀ planned, step.planned? = some planned →
    planned.field.type.fixedWidth? table = none →
    let call := planned.op.invoke ["clientMessage", coding.value planned] ++ ";"
    (step.code = nullGuard (coding.value planned) call ↔ handled planned.field) ∧
    (step.code = .line call ↔ ¬ handled planned.field)
  decoder : ∀ step ∈ coding.decoder, ∀ planned, step.planned? = some planned →
    planned.field.type.fixedWidth? table = none →
    let target := coding.target planned
    let read := planned.op.invoke ["iterator"]
    (step.code = .line (target ++ " = " ++ nullTest ++ read ++ ";") ↔ handled planned.field) ∧
    (step.code = .line (target ++ " = " ++ read ++ ";") ↔ ¬ handled planned.field)

theorem Follows.handlesNulls {coding : Coding} {plans : Plans} {nulls : Bool}
    (h : coding.Follows plans nulls) {scope : RenderScope} {fields : List Field}
    (hplans : scope.plans fields = .ok plans) {handled : Field → Prop}
    (hhandled : ∀ field, handled field ↔ nulls = true ∧ field.nullable = true) :
    coding.HandlesNulls scope.types.table handled := by
  obtain ⟨hencode, hdecode⟩ := RenderScope.plans_eq_ok_iff.mp hplans
  have hbool : ∀ planned : PlannedField,
      handled planned.field ↔ (nulls && planned.nullable) = true := by
    intro planned
    rw [hhandled, Bool.and_eq_true, PlannedField.nullable]
  constructor
  · intro step hstep planned hplanned hframed call
    obtain ⟨hpart, rfl⟩ := h.encoder.eq_ofField hstep hplanned
    have hmem := Plan.mem_fields_of_mem_parts hpart
    have hfixed : planned.isFixed = false := by
      rw [RenderScope.isFixed_of_plan hencode hmem, hframed, Option.isSome_none]
    rw [EncodeStep.ofField_of_framed hfixed, hbool]
    refine iff_chosen ?_ fun hline hguard => nullGuard_ne_line _ _ _ (hguard.symm.trans hline)
    cases nulls && planned.nullable <;> rfl
  · intro step hstep planned hplanned hframed target read
    obtain ⟨hpart, rfl⟩ := h.decoder.eq_ofField hstep hplanned
    have hmem := Plan.mem_fields_of_mem_parts hpart
    have hfixed : planned.isFixed = false := by
      rw [RenderScope.isFixed_of_plan hdecode hmem, hframed, Option.isSome_none]
    rw [DecodeStep.ofField_of_framed hfixed, hbool]
    refine iff_chosen ?_ fun hplain htested =>
      tested_ne_plain target read (Code.line.inj (htested.symm.trans hplain))
    cases nulls && planned.nullable with
    | true => rfl
    | false => simp [DecodeStep.code, target, read]

end Coding

/-- In the codec of a method a framed field is coded with null frames, on both sides, exactly if it
is nullable. In the codec of a custom type it is so exactly if it is nullable and the type has a
field of some width; a type of framed fields alone is coded as if there were no nulls. -/
theorem nulls_of_codecs (scope : RenderScope) :
    (∀ service method text, methodCodec scope service method = .ok text →
      ∃ plan, planMethod scope method = .ok plan ∧
        let codings := plan.codings service method.name
        (∀ coding ∈ codings, coding.InText text) ∧
        List.Forall₂ (fun message coding =>
            coding.Covers scope.types.table message.fields ∧
            coding.HandlesNulls scope.types.table fun field => field.nullable = true)
          method.messages codings) ∧
    (∀ type text, customCodec scope type = .ok text →
      ∃ plans, scope.plans type.fields = .ok plans ∧
        let coding := customCoding scope type plans
        coding.InText text ∧ coding.Covers scope.types.table type.fields ∧
        coding.HandlesNulls scope.types.table fun field =>
          field.nullable = true ∧
            ∃ other ∈ type.fields, (other.type.fixedWidth? scope.types.table).isSome) := by
  constructor
  · intro service method text h
    obtain ⟨plan, hplan, hin, hmessages⟩ := codings_of_methodCodec h
    refine ⟨plan, hplan, hin, hmessages.imp fun message coding ⟨plans, hplans, hfollows⟩ => ?_⟩
    exact ⟨hfollows.covers hplans, hfollows.handlesNulls hplans fun field => by simp⟩
  · intro type text h
    obtain ⟨plans, hplans, hin, hfollows⟩ := coding_of_customCodec h
    refine ⟨plans, hplans, hin, hfollows.covers hplans,
      hfollows.handlesNulls hplans fun field => ?_⟩
    have hencode := (RenderScope.plans_eq_ok_iff.mp hplans).1
    rw [Bool.not_eq_true', RenderScope.isEmpty_fixed_eq_false_iff hencode, and_comm]

/-- A nullable name is guarded in a request, and in a type of its own it is not. -/
theorem nulls_of_codecs_nick :
    let scope : RenderScope := ⟨mappingSet, ⟨.standard, ["Person"]⟩, "codec"⟩
    let nick : Field := ⟨"nick", .primitive "String", true, none, none⟩
    let rename : Method := ⟨1, "rename", none, none, ⟨.derive 1 1 .request, none, [nick]⟩,
      ⟨.derive 1 1 .response, none, []⟩, []⟩
    let person : CustomType := ⟨"Person", none, [nick]⟩
    (∃ text, methodCodec scope "people" rename = .ok text ∧
      ∃ plan, planMethod scope rename = .ok plan ∧
      ∃ coding ∈ plan.codings "people" "rename", coding.InText text ∧
      ∃ step ∈ coding.encoder, ∃ planned : PlannedField, planned.field = nick ∧
        step.code = nullGuard (coding.value planned)
          (planned.op.invoke ["clientMessage", coding.value planned] ++ ";")) ∧
    ∃ text, customCodec scope person = .ok text ∧
      ∃ plans, scope.plans person.fields = .ok plans ∧
      let coding := customCoding scope person plans
      coding.InText text ∧
      ∃ step ∈ coding.encoder, ∃ planned : PlannedField, planned.field = nick ∧
        step.code = .line (planned.op.invoke ["clientMessage", coding.value planned] ++ ";") := by
  intro scope nick rename person
  have hframed : nick.type.fixedWidth? scope.types.table = none := by decide
  obtain ⟨hmethods, hcustoms⟩ := nulls_of_codecs scope
  constructor
  · have hrendered : ∃ text, methodCodec scope "people" rename = .ok text := ⟨_, rfl⟩
    obtain ⟨text, htext⟩ := hrendered
    obtain ⟨plan, hplan, hin, hmessages⟩ := hmethods "people" rename text htext
    obtain ⟨coding, rest, ⟨hcovers, hnulls⟩, -, hcodings⟩ := List.forall₂_cons_left_iff.mp hmessages
    have hcoding : coding ∈ plan.codings "people" "rename" := by
      rw [hcodings]
      exact List.mem_cons_self
    obtain ⟨step, hstep, planned, hplanned, hfield⟩ :=
      exists_step_of_mem hcovers.encoder (List.mem_singleton_self nick)
    refine ⟨text, htext, plan, hplan, coding, hcoding, hin coding hcoding, step, hstep, planned,
      hfield, ?_⟩
    exact (hnulls.encoder step hstep planned hplanned (hfield ▸ hframed)).1.mpr (hfield ▸ rfl)
  · have hrendered : ∃ text, customCodec scope person = .ok text := ⟨_, rfl⟩
    obtain ⟨text, htext⟩ := hrendered
    obtain ⟨plans, hplans, hin, hcovers, hnulls⟩ := hcustoms person text htext
    obtain ⟨step, hstep, planned, hplanned, hfield⟩ :=
      exists_step_of_mem hcovers.encoder (List.mem_singleton_self nick)
    refine ⟨text, htext, plans, hplans, hin, step, hstep, planned, hfield, ?_⟩
    refine (hnulls.encoder step hstep planned hplanned (hfield ▸ hframed)).2.mpr ?_
    rintro ⟨-, other, hother, hwidth⟩
    obtain rfl := List.mem_singleton.mp hother
    rw [hframed] at hwidth
    cases hwidth

end WireCodecs.Java
