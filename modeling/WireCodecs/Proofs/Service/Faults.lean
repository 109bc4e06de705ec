import WireCodecs.Proofs.Service.Resolution

/-! What can be wrong with declared services. The faults of all services stand in one list, in the
order in which they count: repeated ids before everything else, of services in a run and of methods
in a service, and then what is wrong with the parts, one after another. Resolving fails with the
first fault of the list. -/

namespace WireCodecs

/-- All messages of a method, the request and the response first. -/
def MethodDecl.messages (method : MethodDecl) : List MessageDecl :=
  method.request :: method.response :: method.events

/-- The fields of all messages and custom types of a service. -/
def ServiceDecl.fields (service : ServiceDecl) : List FieldDecl :=
  (service.methods.flatMap (·.messages)).flatMap (·.fields) ++
    service.customTypes.flatMap (·.fields)

/-- Services with nothing wrong in them. -/
structure Resolvable (table : TypeTable) (decls : List ServiceDecl) : Prop where
  serviceIds : (decls.map (·.id)).Nodup
  methodIds : ∀ decl ∈ decls, (decl.methods.map (·.id)).Nodup
  events : ∀ decl ∈ decls, ∀ method ∈ decl.methods, method.events.length ≤ 254
  types : ∀ decl ∈ decls, ∀ field ∈ decl.fields,
    ∃ type, TypeName.parse table field.typeName = .ok type

namespace Resolution

section Repeats

variable {α : Type} (id : α → UInt8)

/-- The pairs of an earlier and a later element with one id, ordered by the later one. -/
def repeats (items : List α) : List (α × α) :=
  items.zipIdx.flatMap fun (later, place) =>
    ((items.take place).filter (id · == id later)).map (·, later)

/-- The second element is the first of the list whose id has come before, with the first element. -/
def IsFirstRepeat (items : List α) (first second : α) : Prop :=
  ∃ before between after, items = before ++ first :: between ++ second :: after ∧
    id first = id second ∧ ((before ++ first :: between).map id).Nodup

end Repeats

section Faults

variable (table : TypeTable)

def fieldFaults (context : String) (fields : List FieldDecl) : List ResolutionError :=
  fields.filterMap fun field =>
    match TypeName.parse table field.typeName with
    | .ok _ => none
    | .error cause => some (.malformedType (context ++ "." ++ field.name) cause)

/-- The types of the events that can have a role count before there being more of them. -/
def eventFaults (context : String) (events : List MessageDecl) : List ResolutionError :=
  (events.take 254).flatMap (fun event => fieldFaults table context event.fields) ++
    if 254 < events.length then [.tooManyEvents context events.length] else []

def methodFaults (service : ServiceDecl) (method : MethodDecl) : List ResolutionError :=
  let context := service.name ++ "." ++ method.name
  eventFaults table context method.events ++ fieldFaults table context method.request.fields ++
    fieldFaults table context method.response.fields

def serviceFaults (service : ServiceDecl) : List ResolutionError :=
  (repeats (·.id) service.methods).map (fun (first, second) =>
    .duplicateMethod service.name second.id first.name second.name) ++
  service.methods.flatMap (methodFaults table service) ++
  service.customTypes.flatMap fun type => fieldFaults table type.name type.fields

def faults (services : List ServiceDecl) : List ResolutionError :=
  (repeats (·.id) services).map (fun (first, second) =>
    .duplicateService second.id first.name second.name) ++
  services.flatMap (serviceFaults table)

end Faults

section Search

variable {α : Type} {id : α → UInt8}

/-- Among elements with distinct ids there is at most one with a given id, so it does not matter
from which end one looks for it. -/
theorem find?_reverse_of_nodup {items : List α} (h : (items.map id).Nodup) (key : UInt8) :
    items.reverse.find? (id · == key) = items.find? (id · == key) := by
  cases hfind : items.find? (id · == key) with
  | none => simpa using hfind
  | some x =>
    cases hreverse : items.reverse.find? (id · == key) with
    | none =>
      have hnone : ∀ y ∈ items, id y ≠ key := by simpa using hreverse
      have hx : id x = key := by simpa using List.find?_some hfind
      exact absurd hx (hnone x (List.mem_of_find?_eq_some hfind))
    | some y =>
      have hx : id x = key := by simpa using List.find?_some hfind
      have hy : id y = key := by simpa using List.find?_some hreverse
      have hmem : y ∈ items := List.mem_reverse.mp (List.mem_of_find?_eq_some hreverse)
      rw [List.inj_on_of_nodup_map h hmem (List.mem_of_find?_eq_some hfind) (hy.trans hx.symm)]

/-- The search looks at what came before each element, the latest first. -/
theorem head?_repeats_behind {before items : List α} (h : (before.map id).Nodup) :
    (items.zipIdx.flatMap fun (later, place) =>
      ((before ++ items.take place).filter (id · == id later)).map (·, later)).head? =
      firstRepeat? id before.reverse items := by
  induction items generalizing before with
  | nil => rfl
  | cons x rest ih =>
    rw [firstRepeat?, find?_reverse_of_nodup h, List.zipIdx_cons, List.flatMap_cons,
      List.head?_append, List.head?_map, List.take_zero, List.append_nil, List.head?_filter]
    cases hfind : before.find? (id · == id x) with
    | some y => rfl
    | none =>
      have hnone : ∀ y ∈ before, id y ≠ id x := by simpa using List.find?_eq_none.mp hfind
      have hnodup : ((before ++ [x]).map id).Nodup := by
        rw [List.map_append, List.map_singleton, List.nodup_append]
        refine ⟨h, List.nodup_singleton _, ?_⟩
        rintro _ hmem _ hx rfl
        obtain ⟨y, hy, heq⟩ := List.mem_map.mp hmem
        exact hnone y hy (heq.trans (List.mem_singleton.mp hx))
      have hlater := ih hnodup
      rw [List.reverse_append, List.reverse_singleton, List.singleton_append] at hlater
      rw [← hlater, List.zipIdx_succ, List.flatMap_map]
      simp

theorem head?_repeats (items : List α) : (repeats id items).head? = firstRepeat? id [] items := by
  have hnodup : (([] : List α).map id).Nodup := List.nodup_nil
  exact head?_repeats_behind hnodup

theorem repeats_eq_nil_iff {items : List α} : repeats id items = [] ↔ (items.map id).Nodup := by
  rw [← List.head?_eq_none_iff, head?_repeats, firstRepeat?_nil_eq_none_iff]

theorem firstRepeat?_append {seen items more : List α} (h : firstRepeat? id seen items = none) :
    firstRepeat? id seen (items ++ more) = firstRepeat? id (items.reverse ++ seen) more := by
  induction items generalizing seen with
  | nil => rfl
  | cons x rest ih =>
    rw [List.cons_append, firstRepeat?] at *
    cases hfind : seen.find? (id · == id x) with
    | some y => simp [hfind] at h
    | none =>
      simp only [hfind] at h ⊢
      rw [ih h, List.reverse_cons, List.append_assoc, List.singleton_append]

theorem IsFirstRepeat.firstRepeat?_eq {items : List α} {first second : α}
    (h : IsFirstRepeat id items first second) :
    firstRepeat? id [] items = some (first, second) := by
  obtain ⟨before, between, after, rfl, heq, hnodup⟩ := h
  have hnone := firstRepeat?_nil_eq_none_iff.mpr hnodup
  have hfind : (before ++ first :: between).find? (id · == id second) = some first := by
    obtain ⟨found, hfound⟩ : ∃ found, (before ++ first :: between).find? (id · == id second) =
        some found := by
      rw [← Option.isSome_iff_exists, List.find?_isSome]
      exact ⟨first, by simp, by simp [heq]⟩
    have hid : id found = id second := by simpa using List.find?_some hfound
    have hmem := List.mem_of_find?_eq_some hfound
    rw [hfound, List.inj_on_of_nodup_map hnodup hmem (by simp) (hid.trans heq.symm)]
  rw [firstRepeat?_append hnone, List.append_nil, firstRepeat?, find?_reverse_of_nodup hnodup,
    hfind]

end Search

section Failures

variable {table : TypeTable}

theorem failsFirst_fields (context : String) (fields : List FieldDecl) :
    FailsFirst (fieldFaults table context fields) (fields.mapM (field table context)) := by
  rw [fieldFaults, List.filterMap_eq_flatMap_toList]
  refine FailsFirst.mapM fun decl _ => ?_
  rw [field]
  cases TypeName.parse table decl.typeName with
  | ok type => exact .ok _
  | error cause => exact .error _ []

theorem failsFirst_message (context : String) (id : MessageId) (decl : MessageDecl) :
    FailsFirst (fieldFaults table context decl.fields) (message table context id decl) :=
  (failsFirst_fields context decl.fields).map _

/-- Behind `index` events, as many more can have a role as are left of 254. -/
theorem failsFirst_events (table : TypeTable) (context : String) (service method : UInt8)
    {count index : Nat} {decls : List MessageDecl} (hcount : index + decls.length = count)
    (hindex : index ≤ 254) :
    FailsFirst
      ((decls.take (254 - index)).flatMap (fun event => fieldFaults table context event.fields) ++
        if 254 < count then [.tooManyEvents context count] else [])
      (events table context service method count index decls) := by
  induction decls generalizing index with
  | nil =>
    have hfew : ¬ 254 < count := by rw [List.length_nil] at hcount; omega
    rw [List.take_nil, if_neg hfew]
    exact .ok []
  | cons decl decls ih =>
    rw [List.length_cons] at hcount
    rw [events]
    by_cases hlt : index < 254
    · have hrole : Role.event? index = some (.event ⟨index, hlt⟩) := dif_pos hlt
      have hleft : 254 - index = 254 - (index + 1) + 1 := by omega
      rw [hrole, hleft, List.take_succ_cons, List.flatMap_cons, List.append_assoc]
      refine (failsFirst_message _ _ _).bind fun event _ => ?_
      exact (ih (by omega) hlt).map (event :: ·)
    · have hrole : Role.event? index = none := dif_neg hlt
      have hmany : 254 < count := by omega
      rw [hrole, Nat.sub_eq_zero_of_le (by omega), List.take_zero, if_pos hmany]
      exact .error _ []

theorem failsFirst_method (service : ServiceDecl) (decl : MethodDecl) :
    FailsFirst (methodFaults table service decl) (method table service decl) := by
  have hevents := failsFirst_events table (service.name ++ "." ++ decl.name) service.id decl.id
    (Nat.zero_add decl.events.length) (Nat.zero_le 254)
  rw [methodFaults, List.append_assoc, method]
  exact hevents.bind fun _ _ => (failsFirst_message _ _ _).bind fun _ _ =>
    (failsFirst_message _ _ _).map _

theorem failsFirst_customType (decl : CustomTypeDecl) :
    FailsFirst (fieldFaults table decl.name decl.fields) (customType table decl) :=
  (failsFirst_fields decl.name decl.fields).map _

/-- A repeated id is looked for before anything else. -/
theorem failsFirst_distinct {α β : Type} (id : α → UInt8) (items : List α)
    (fault : α × α → ResolutionError) {rest : List ResolutionError}
    {x : Except ResolutionError β} (h : FailsFirst rest x) :
    FailsFirst ((repeats id items).map fault ++ rest)
      (match firstRepeat? id [] items with
      | some found => .error (fault found)
      | none => x) := by
  rw [← head?_repeats]
  cases repeats id items with
  | nil => exact h
  | cons found others => exact .error _ _

theorem failsFirst_service (decl : ServiceDecl) :
    FailsFirst (serviceFaults table decl) (service table decl) := by
  have hparts : FailsFirst (decl.methods.flatMap (methodFaults table decl) ++
      decl.customTypes.flatMap fun type => fieldFaults table type.name type.fields) (do
        let methods ← decl.methods.mapM (method table decl)
        let customTypes ← decl.customTypes.mapM (customType table)
        return ⟨decl.id, decl.name, sortById (·.id) methods, customTypes⟩ :
      Except ResolutionError Service) :=
    (FailsFirst.mapM fun target _ => failsFirst_method decl target).bind fun _ _ =>
      (FailsFirst.mapM fun type _ => failsFirst_customType type).map _
  have hdistinct := failsFirst_distinct (·.id) decl.methods
    (fun (first, second) => .duplicateMethod decl.name second.id first.name second.name) hparts
  rw [serviceFaults, List.append_assoc]
  convert hdistinct using 1
  rw [service]
  cases firstRepeat? (·.id) [] decl.methods <;> rfl

end Failures

section Absence

variable {table : TypeTable}

theorem fieldFaults_eq_nil_iff {context : String} {fields : List FieldDecl} :
    fieldFaults table context fields = [] ↔
      ∀ field ∈ fields, ∃ type, TypeName.parse table field.typeName = .ok type := by
  rw [fieldFaults, List.filterMap_eq_nil_iff]
  refine forall₂_congr fun field _ => ?_
  cases TypeName.parse table field.typeName <;> simp

theorem eventFaults_eq_nil_iff {context : String} {events : List MessageDecl} :
    eventFaults table context events = [] ↔ events.length ≤ 254 ∧
      ∀ event ∈ events, ∀ field ∈ event.fields,
        ∃ type, TypeName.parse table field.typeName = .ok type := by
  rw [eventFaults, List.append_eq_nil_iff, List.flatMap_eq_nil_iff]
  simp only [fieldFaults_eq_nil_iff]
  by_cases hmany : 254 < events.length
  · simp [hmany, Nat.not_le.mpr hmany]
  · have hfew : events.length ≤ 254 := Nat.not_lt.mp hmany
    simp [hmany, hfew, List.take_of_length_le hfew]

theorem methodFaults_eq_nil_iff {service : ServiceDecl} {method : MethodDecl} :
    methodFaults table service method = [] ↔ method.events.length ≤ 254 ∧
      ∀ message ∈ method.messages, ∀ field ∈ message.fields,
        ∃ type, TypeName.parse table field.typeName = .ok type := by
  simp only [methodFaults, List.append_eq_nil_iff, eventFaults_eq_nil_iff, fieldFaults_eq_nil_iff,
    MethodDecl.messages, List.forall_mem_cons]
  tauto

theorem serviceFaults_eq_nil_iff {service : ServiceDecl} :
    serviceFaults table service = [] ↔ (service.methods.map (·.id)).Nodup ∧
      (∀ method ∈ service.methods, method.events.length ≤ 254) ∧
      ∀ field ∈ service.fields, ∃ type, TypeName.parse table field.typeName = .ok type := by
  simp only [serviceFaults, List.append_eq_nil_iff, List.map_eq_nil_iff, repeats_eq_nil_iff,
    List.flatMap_eq_nil_iff, methodFaults_eq_nil_iff, fieldFaults_eq_nil_iff, ServiceDecl.fields,
    List.forall_mem_append, List.forall_mem_flatMap]
  constructor
  · rintro ⟨⟨hids, hmethods⟩, htypes⟩
    exact ⟨hids, fun method hmethod => (hmethods method hmethod).1,
      fun method hmethod => (hmethods method hmethod).2, htypes⟩
  · rintro ⟨hids, hevents, hmethods, htypes⟩
    exact ⟨⟨hids, fun method hmethod => ⟨hevents method hmethod, hmethods method hmethod⟩⟩, htypes⟩

theorem faults_eq_nil_iff {decls : List ServiceDecl} :
    faults table decls = [] ↔ Resolvable table decls := by
  simp only [faults, List.append_eq_nil_iff, List.map_eq_nil_iff, repeats_eq_nil_iff,
    List.flatMap_eq_nil_iff, serviceFaults_eq_nil_iff]
  constructor
  · rintro ⟨hids, hservices⟩
    exact ⟨hids, fun decl hdecl => (hservices decl hdecl).1,
      fun decl hdecl => (hservices decl hdecl).2.1, fun decl hdecl => (hservices decl hdecl).2.2⟩
  · rintro ⟨hids, hmethodIds, hevents, htypes⟩
    exact ⟨hids, fun decl hdecl => ⟨hmethodIds decl hdecl, hevents decl hdecl, htypes decl hdecl⟩⟩

/-- A fault that is about too many events is one of a method that has them. -/
theorem exists_of_tooManyEvents {decls : List ServiceDecl} {context : String} {count : Nat}
    (h : .tooManyEvents context count ∈ faults table decls) :
    ∃ decl ∈ decls, ∃ method ∈ decl.methods, 254 < method.events.length := by
  have hfields (other : String) (fields : List FieldDecl) :
      .tooManyEvents context count ∉ fieldFaults table other fields := by
    intro hmem
    obtain ⟨field, -, hfield⟩ := List.mem_filterMap.mp hmem
    split at hfield <;> cases hfield
  simp only [faults, serviceFaults, methodFaults, eventFaults, List.mem_append, List.mem_map,
    List.mem_flatMap, hfields, reduceCtorEq, and_false, exists_false, false_or, or_false] at h
  obtain ⟨decl, hdecl, method, hmethod, h⟩ := h
  refine ⟨decl, hdecl, method, hmethod, ?_⟩
  by_contra hfew
  simp [hfew] at h

end Absence

end Resolution

open Resolution

theorem failsFirst_resolve (table : TypeTable) (decls : List ServiceDecl) :
    FailsFirst (faults table decls) (resolve table decls) := by
  have hparts : FailsFirst (decls.flatMap (serviceFaults table)) (do
      let services ← decls.mapM (service table)
      return sortById (·.id) services : Except ResolutionError (List Service)) :=
    (FailsFirst.mapM fun decl _ => failsFirst_service decl).map _
  have hdistinct := failsFirst_distinct (·.id) decls
    (fun (first, second) => .duplicateService second.id first.name second.name) hparts
  rw [faults]
  convert hdistinct using 1
  rw [resolve]
  cases firstRepeat? (·.id) [] decls <;> rfl

/-- Resolving succeeds exactly for services with nothing wrong in them, and fails with the first of
their faults. A repeated service id comes first, whatever else is wrong. -/
theorem resolve_fails_first (table : TypeTable) (decls : List ServiceDecl) :
    ((∃ services, resolve table decls = .ok services) ↔ Resolvable table decls) ∧
    (∀ error, resolve table decls = .error error ↔ (faults table decls).head? = some error) ∧
    ∀ first second, IsFirstRepeat (·.id) decls first second →
      resolve table decls =
        .error (.duplicateService second.id first.name second.name) := by
  have hfaults := failsFirst_resolve table decls
  refine ⟨hfaults.exists_iff.trans faults_eq_nil_iff, hfaults, fun first second h => ?_⟩
  exact resolve_of_repeat h.firstRepeat?_eq

/-- A repeated service id counts before a repeated method id, which counts before a malformed
type. -/
theorem resolve_fails_first_faulty_services :
    let method (name type : String) : MethodDecl :=
      ⟨1, name, none, none, ⟨none, [⟨"key", type, false, none, none⟩]⟩, ⟨none, []⟩, []⟩
    let map : ServiceDecl := ⟨2, "map", [], []⟩
    let list : ServiceDecl := ⟨1, "list", [method "add" "List_", method "get" "String"], []⟩
    let queue : ServiceDecl := ⟨2, "queue", [method "offer" "Enum_"], []⟩
    IsFirstRepeat (·.id) [map, list, queue] map queue ∧
      resolve .standard [map, list, queue] = .error (.duplicateService 2 "map" "queue") ∧
      resolve .standard [map, list] = .error (.duplicateMethod "list" 1 "add" "get") ∧
      resolve .standard [queue] =
        .error (.malformedType "queue.offer.key" (.missingBase "Enum_")) := by
  intro method map list queue
  have hrepeat : IsFirstRepeat (·.id) [map, list, queue] map queue :=
    ⟨[], [list], [], rfl, rfl, by decide⟩
  refine ⟨hrepeat, (resolve_fails_first .standard [map, list, queue]).2.2 _ _ hrepeat,
    ((resolve_fails_first .standard [map, list]).2.1 _).mpr ?_,
    ((resolve_fails_first .standard [queue]).2.1 _).mpr ?_⟩
  · decide +kernel
  · decide +kernel

end WireCodecs
