import Mathlib.Data.List.Nodup
import WireCodecs.Proofs.Outcome
import WireCodecs.Service.Resolution

/-! What resolving a declaration gives when it succeeds, level by level from a message to a whole
run. At each level the parts are resolved one by one, and ids that have to be distinct are. -/

namespace WireCodecs

namespace Resolution

section Distinct

variable {α : Type} {id : α → UInt8}

/-- The search compares each element with all before it, so nothing is found exactly if no two ids
are equal. -/
theorem firstRepeat?_eq_none_iff {seen items : List α} :
    firstRepeat? id seen items = none ↔
      (items.map id).Nodup ∧ ∀ x ∈ items, ∀ y ∈ seen, id y ≠ id x := by
  induction items generalizing seen with
  | nil => simp [firstRepeat?]
  | cons x rest ih =>
    rw [firstRepeat?]
    cases hfind : seen.find? fun y => id y == id x with
    | some y =>
      have hmem := List.mem_of_find?_eq_some hfind
      have heq : id y = id x := by simpa using List.find?_some hfind
      simp only [reduceCtorEq, false_iff, not_and]
      intro _ hall
      exact hall x List.mem_cons_self y hmem heq
    | none =>
      have hseen : ∀ y ∈ seen, id y ≠ id x := by simpa using List.find?_eq_none.mp hfind
      simp only [ih, List.map_cons, List.nodup_cons, List.mem_map, List.mem_cons,
        forall_eq_or_imp, ne_eq, not_exists, not_and]
      grind

theorem firstRepeat?_nil_eq_none_iff {items : List α} :
    firstRepeat? id [] items = none ↔ (items.map id).Nodup := by
  simp [firstRepeat?_eq_none_iff]

theorem sortById_perm (items : List α) : (sortById id items).Perm items :=
  List.mergeSort_perm _ _

end Distinct

section Messages

variable {table : TypeTable} {context : String}

theorem message_eq_ok_iff {id : MessageId} {decl : MessageDecl} {resolved : Message} :
    message table context id decl = .ok resolved ↔
      ∃ fields, decl.fields.mapM (field table context) = .ok fields ∧
        resolved = ⟨id, decl.name, fields⟩ := by
  simp only [message, bind_eq_ok_iff, pure_eq_ok_iff]

/-- The declaration at each place gives an event with that place as its index. -/
theorem events_eq_ok_iff {service method : UInt8} {count index : Nat} {decls : List MessageDecl}
    {resolved : List Message} :
    events table context service method count index decls = .ok resolved ↔
      List.Forall₂ (fun entry event => ∃ role, Role.event? entry.2 = some role ∧
        message table context (.derive service method role) entry.1 = .ok event)
        (decls.zipIdx index) resolved := by
  induction decls generalizing index resolved with
  | nil => simp [events, eq_comm]
  | cons decl decls ih =>
    rw [events, List.zipIdx_cons, List.forall₂_cons_left_iff]
    cases hrole : Role.event? index with
    | none => simp
    | some role =>
      simp only [bind_eq_ok_iff, pure_eq_ok_iff, ih, Option.some.injEq, exists_eq_left']
      constructor
      · rintro ⟨event, hevent, rest, hrest, rfl⟩
        exact ⟨event, rest, hevent, hrest, rfl⟩
      · rintro ⟨event, rest, hevent, hrest, rfl⟩
        exact ⟨event, hevent, rest, hrest, rfl⟩

theorem method_eq_ok_iff {service : ServiceDecl} {decl : MethodDecl} {resolved : Method} :
    method table service decl = .ok resolved ↔
      ∃ resolvedEvents request response,
        events table (service.name ++ "." ++ decl.name) service.id decl.id decl.events.length 0
          decl.events = .ok resolvedEvents ∧
        message table (service.name ++ "." ++ decl.name) (.derive service.id decl.id .request)
          decl.request = .ok request ∧
        message table (service.name ++ "." ++ decl.name) (.derive service.id decl.id .response)
          decl.response = .ok response ∧
        resolved =
          ⟨decl.id, decl.name, decl.since, decl.doc, request, response, resolvedEvents⟩ := by
  simp only [method, bind_eq_ok_iff, pure_eq_ok_iff, exists_and_left]

end Messages

section Services

variable {table : TypeTable}

theorem service_of_repeat {decl : ServiceDecl} {first second : MethodDecl}
    (h : firstRepeat? (·.id) [] decl.methods = some (first, second)) :
    service table decl =
      .error (.duplicateMethod decl.name second.id first.name second.name) := by
  rw [service, h]
  rfl

theorem service_eq_ok_iff {decl : ServiceDecl} {resolved : Service} :
    service table decl = .ok resolved ↔
      (decl.methods.map (·.id)).Nodup ∧ ∃ methods customTypes,
        decl.methods.mapM (method table decl) = .ok methods ∧
        decl.customTypes.mapM (customType table) = .ok customTypes ∧
        resolved = ⟨decl.id, decl.name, sortById (·.id) methods, customTypes⟩ := by
  rw [← firstRepeat?_nil_eq_none_iff]
  cases h : firstRepeat? (·.id) [] decl.methods with
  | some found => simp [service_of_repeat h]
  | none =>
    rw [service, h]
    simp only [bind_eq_ok_iff, pure_eq_ok_iff, true_and, exists_and_left]

end Services

end Resolution

open Resolution in
theorem resolve_of_repeat {table : TypeTable} {decls : List ServiceDecl}
    {first second : ServiceDecl} (h : firstRepeat? (·.id) [] decls = some (first, second)) :
    resolve table decls = .error (.duplicateService second.id first.name second.name) := by
  rw [resolve, h]
  rfl

open Resolution in
theorem resolve_eq_ok_iff {table : TypeTable} {decls : List ServiceDecl}
    {services : List Service} :
    resolve table decls = .ok services ↔
      (decls.map (·.id)).Nodup ∧ ∃ resolved, decls.mapM (service table) = .ok resolved ∧
        services = sortById (·.id) resolved := by
  rw [← firstRepeat?_nil_eq_none_iff]
  cases h : firstRepeat? (·.id) [] decls with
  | some found => simp [resolve_of_repeat h]
  | none =>
    rw [resolve, h]
    simp only [bind_eq_ok_iff, pure_eq_ok_iff, true_and]

end WireCodecs
