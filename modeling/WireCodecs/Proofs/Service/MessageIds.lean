import Mathlib.Data.List.Permutation
import WireCodecs.Proofs.MessageId
import WireCodecs.Proofs.Service.Resolution

/-! The identifiers of a run. Within a method the role bytes are distinct, within a service the
method ids are, and within a run the service ids are. Since an identifier says which of them it
belongs to, no two messages of a run have the same one. -/

namespace WireCodecs

def Service.messages (service : Service) : List Message := service.methods.flatMap (·.messages)

/-- Items with distinct keys give distinct results, if each result tells the key of its item and no
item gives a result twice. -/
theorem nodup_flatMap_of_key {α β γ : Type} {items : List α} {f : α → List β} {key : α → γ}
    (owner : β → γ) (hkeys : (items.map key).Nodup) (hnodup : ∀ a ∈ items, (f a).Nodup)
    (howner : ∀ a ∈ items, ∀ b ∈ f a, owner b = key a) : (items.flatMap f).Nodup := by
  rw [List.nodup_flatMap]
  refine ⟨hnodup, ?_⟩
  rw [List.nodup_iff_pairwise_ne, List.pairwise_map] at hkeys
  refine hkeys.imp_of_mem fun {a a'} ha ha' hne => ?_
  intro b hb hb'
  exact hne ((howner a ha b hb).symm.trans (howner a' ha' b hb'))

namespace Resolution

variable {table : TypeTable}

theorem id_of_message {context : String} {id : MessageId} {decl : MessageDecl}
    {resolved : Message} (h : message table context id decl = .ok resolved) : resolved.id = id := by
  obtain ⟨fields, -, rfl⟩ := message_eq_ok_iff.mp h
  rfl

theorem id_of_method {decl : ServiceDecl} {methodDecl : MethodDecl} {resolved : Method}
    (h : method table decl methodDecl = .ok resolved) : resolved.id = methodDecl.id := by
  obtain ⟨_, _, _, -, -, -, rfl⟩ := method_eq_ok_iff.mp h
  rfl

/-- The place among the events gives the role, so nothing wraps around. -/
theorem belongsTo_of_events {context : String} {service method : UInt8} {count : Nat}
    {decls : List MessageDecl} {resolved : List Message}
    (h : events table context service method count 0 decls = .ok resolved) (i : Nat)
    (hi : i < resolved.length) : (resolved[i]).id.BelongsTo service method (i + 2) := by
  have hforall := events_eq_ok_iff.mp h
  have hi' : i < (decls.zipIdx 0).length := by rwa [hforall.length_eq]
  obtain ⟨role, hrole, hmessage⟩ := hforall.get hi' hi
  obtain ⟨hlt, rfl⟩ := Role.event?_eq_some_iff.mp hrole
  simp only [List.get_eq_getElem, List.getElem_zipIdx] at hmessage hlt
  have hbyte : (Role.event ⟨0 + i, hlt⟩).byte.toNat = i + 2 := by
    rw [Role.toNat_byte_event]
    simp
  rw [id_of_message hmessage, ← hbyte]
  exact MessageId.belongsTo_derive service method _

/-- Every message of a resolved method says which method it belongs to, and at which place. -/
theorem belongsTo_of_method {decl : ServiceDecl} {methodDecl : MethodDecl} {resolved : Method}
    (h : method table decl methodDecl = .ok resolved) (i : Nat)
    (hi : i < resolved.messages.length) :
    (resolved.messages[i]).id.BelongsTo decl.id resolved.id i := by
  obtain ⟨resolvedEvents, request, response, hevents, hrequest, hresponse, rfl⟩ :=
    method_eq_ok_iff.mp h
  match i with
  | 0 =>
    show request.id.BelongsTo _ _ _
    rw [id_of_message hrequest]
    exact MessageId.belongsTo_derive decl.id methodDecl.id .request
  | 1 =>
    show response.id.BelongsTo _ _ _
    rw [id_of_message hresponse]
    exact MessageId.belongsTo_derive decl.id methodDecl.id .response
  | i + 2 => exact belongsTo_of_events hevents i (by simpa [Method.messages] using hi)

/-- The place of a message in its method is its role byte, so no two messages have one id. -/
theorem nodup_of_method {decl : ServiceDecl} {methodDecl : MethodDecl} {resolved : Method}
    (h : method table decl methodDecl = .ok resolved) :
    (resolved.messages.map (·.id)).Nodup := by
  rw [List.nodup_iff_injective_get]
  intro i j heq
  simp only [List.get_eq_getElem, List.getElem_map] at heq
  have hi := belongsTo_of_method h i (by simpa using i.isLt)
  have hj := belongsTo_of_method h j (by simpa using j.isLt)
  rw [heq] at hi
  exact Fin.ext (hi.roleByte.symm.trans hj.roleByte)

section Services

variable {decl : ServiceDecl} {resolved : Service}

theorem id_of_service (h : service table decl = .ok resolved) : resolved.id = decl.id := by
  obtain ⟨-, methods, customTypes, -, -, rfl⟩ := service_eq_ok_iff.mp h
  rfl

theorem exists_of_mem_methods (h : service table decl = .ok resolved) {target : Method}
    (ht : target ∈ resolved.methods) :
    ∃ methodDecl ∈ decl.methods, method table decl methodDecl = .ok target := by
  obtain ⟨-, methods, customTypes, hmethods, -, rfl⟩ := service_eq_ok_iff.mp h
  exact exists_mem_of_mapM hmethods ((sortById_perm methods).mem_iff.mp ht)

theorem nodup_methodIds (h : service table decl = .ok resolved) :
    (resolved.methods.map (·.id)).Nodup := by
  obtain ⟨hnodup, methods, customTypes, hmethods, -, rfl⟩ := service_eq_ok_iff.mp h
  rw [((sortById_perm methods).map _).nodup_iff,
    map_eq_of_mapM (fun _ _ => id_of_method) hmethods]
  exact hnodup

/-- The messages of a resolved service belong to it, each to its method. -/
theorem belongsTo_of_service (h : service table decl = .ok resolved) {target : Method}
    (ht : target ∈ resolved.methods) (i : Nat) (hi : i < target.messages.length) :
    (target.messages[i]).id.BelongsTo resolved.id target.id i := by
  obtain ⟨methodDecl, -, hmethod⟩ := exists_of_mem_methods h ht
  rw [id_of_service h]
  exact belongsTo_of_method hmethod i hi

theorem nodup_of_service (h : service table decl = .ok resolved) :
    (resolved.messages.map (·.id)).Nodup := by
  rw [Service.messages, List.map_flatMap]
  refine nodup_flatMap_of_key MessageId.methodId (nodup_methodIds h) (fun target ht => ?_)
    (fun target ht id hid => ?_)
  · obtain ⟨methodDecl, -, hmethod⟩ := exists_of_mem_methods h ht
    exact nodup_of_method hmethod
  · obtain ⟨message, hmessage, rfl⟩ := List.mem_map.mp hid
    obtain ⟨i, hi, rfl⟩ := List.mem_iff_getElem.mp hmessage
    exact (belongsTo_of_service h ht i hi).methodId

end Services

section Runs

variable {decls : List ServiceDecl} {services : List Service}

theorem exists_of_mem_services (h : resolve table decls = .ok services) {target : Service}
    (ht : target ∈ services) : ∃ decl ∈ decls, service table decl = .ok target := by
  obtain ⟨-, resolved, hresolved, rfl⟩ := resolve_eq_ok_iff.mp h
  exact exists_mem_of_mapM hresolved ((sortById_perm resolved).mem_iff.mp ht)

theorem nodup_serviceIds (h : resolve table decls = .ok services) :
    (services.map (·.id)).Nodup := by
  obtain ⟨hnodup, resolved, hresolved, rfl⟩ := resolve_eq_ok_iff.mp h
  rw [((sortById_perm resolved).map _).nodup_iff,
    map_eq_of_mapM (fun _ _ => id_of_service) hresolved]
  exact hnodup

theorem nodup_of_resolve (h : resolve table decls = .ok services) :
    ((services.flatMap (·.messages)).map (·.id)).Nodup := by
  rw [List.map_flatMap]
  refine nodup_flatMap_of_key MessageId.serviceId (nodup_serviceIds h) (fun target ht => ?_)
    (fun target ht id hid => ?_)
  · obtain ⟨decl, -, hservice⟩ := exists_of_mem_services h ht
    exact nodup_of_service hservice
  · obtain ⟨decl, -, hservice⟩ := exists_of_mem_services h ht
    obtain ⟨message, hmessage, rfl⟩ := List.mem_map.mp hid
    obtain ⟨owner, howner, hmem⟩ := List.mem_flatMap.mp hmessage
    obtain ⟨i, hi, rfl⟩ := List.mem_iff_getElem.mp hmem
    exact (belongsTo_of_service hservice howner i hi).serviceId

end Runs

end Resolution

/-- In a resolved run all identifiers are distinct, and each one reads as the service, the method
and the role of its message: 0 for the request, 1 for the response, `i + 2` for event `i`. -/
theorem messageIds_of_resolve {table : TypeTable} {decls : List ServiceDecl}
    {services : List Service} (h : resolve table decls = .ok services) :
    ((services.flatMap (·.messages)).map (·.id)).Nodup ∧
    ∀ service ∈ services, ∀ method ∈ service.methods,
      method.request.id.BelongsTo service.id method.id 0 ∧
      method.response.id.BelongsTo service.id method.id 1 ∧
      ∀ (i : Nat) (hi : i < method.events.length),
        (method.events[i]).id.BelongsTo service.id method.id (i + 2) := by
  refine ⟨Resolution.nodup_of_resolve h, fun service hs method hm => ?_⟩
  obtain ⟨decl, -, hservice⟩ := Resolution.exists_of_mem_services h hs
  have hbelongs := Resolution.belongsTo_of_service hservice hm
  refine ⟨hbelongs 0 (by simp [Method.messages]), hbelongs 1 (by simp [Method.messages]), ?_⟩
  intro i hi
  exact hbelongs (i + 2) (by simpa [Method.messages] using hi)

/-- Two services share a method id, and each of their messages has an identifier of its own. -/
theorem messageIds_of_resolve_shared_methodId :
    let listen : MethodDecl :=
      ⟨1, "listen", none, none, ⟨none, []⟩, ⟨none, []⟩, [⟨none, []⟩, ⟨none, []⟩]⟩
    let put : MethodDecl := ⟨1, "put", none, none, ⟨none, []⟩, ⟨none, []⟩, []⟩
    let decls : List ServiceDecl := [⟨9, "queue", [listen], []⟩, ⟨2, "map", [put], []⟩]
    let message (id : Nat) : Message := ⟨⟨id⟩, none, []⟩
    let services : List Service := [
      ⟨2, "map", [⟨1, "put", none, none, message 0x020100, message 0x020101, []⟩], []⟩,
      ⟨9, "queue", [⟨1, "listen", none, none, message 0x090100, message 0x090101,
        [message 0x090102, message 0x090103]⟩], []⟩]
    resolve .standard decls = .ok services ∧
      ((services.flatMap (·.messages)).map (·.id)).Nodup := by
  intro listen put decls message services
  have hresolve : resolve .standard decls = .ok services := by cbv
  exact ⟨hresolve, (messageIds_of_resolve hresolve).1⟩

end WireCodecs
