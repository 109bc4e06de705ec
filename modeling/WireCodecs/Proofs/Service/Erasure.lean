import WireCodecs.Proofs.Service.Order
import WireCodecs.Proofs.TypeName.RoundTrip

/-! What resolving adds to declared services. A resolved service with its identifiers taken away and
its types spelled out is the declaration that it comes from, with services and methods in the order
of their ids; nothing else is lost, added or moved. Resolving that declaration gives the service
again. -/

namespace WireCodecs

section Erasing

def Field.erase (field : Field) : FieldDecl :=
  ⟨field.name, field.type.spelling, field.nullable, field.since, field.doc⟩

def Message.erase (message : Message) : MessageDecl :=
  ⟨message.name, message.fields.map Field.erase⟩

def Method.erase (method : Method) : MethodDecl where
  id := method.id
  name := method.name
  since := method.since
  doc := method.doc
  request := method.request.erase
  response := method.response.erase
  events := method.events.map Message.erase

def CustomType.erase (type : CustomType) : CustomTypeDecl :=
  ⟨type.name, type.since, type.fields.map Field.erase⟩

def Service.erase (service : Service) : ServiceDecl :=
  ⟨service.id, service.name, service.methods.map Method.erase,
    service.customTypes.map CustomType.erase⟩

end Erasing

section Orders

/-- A declaration with its methods in the order of their ids. -/
def ServiceDecl.inOrder (decl : ServiceDecl) : ServiceDecl :=
  { decl with methods := Resolution.sortById (·.id) decl.methods }

/-- Declarations in the order of their ids, with their methods in that order too. -/
def ServiceDecl.allInOrder (decls : List ServiceDecl) : List ServiceDecl :=
  Resolution.sortById (·.id) (decls.map ServiceDecl.inOrder)

end Orders

namespace Resolution

section Sorting

variable {α β : Type}

/-- Elements with distinct ids are in strict order once they are sorted. -/
theorem pairwise_lt_sortById {id : α → UInt8} {items : List α} (h : (items.map id).Nodup) :
    (sortById id items).Pairwise fun x y => id x < id y := by
  have hdistinct : (sortById id items).Pairwise fun x y => id x ≠ id y := by
    rw [← List.pairwise_map, ← List.nodup_iff_pairwise_ne, ((sortById_perm items).map id).nodup_iff]
    exact h
  exact ((pairwise_sortById items).and hdistinct).imp fun ⟨hle, hne⟩ => UInt8.lt_of_le_of_ne hle hne

theorem map_sortById (id : α → UInt8) (id' : β → UInt8) (f : α → β) (h : ∀ x, id' (f x) = id x)
    (items : List α) : (sortById id items).map f = sortById id' (items.map f) :=
  List.map_mergeSort fun x _ y _ => by rw [h x, h y]

end Sorting

variable {table : TypeTable}

theorem erase_of_field {context : String} {decl : FieldDecl} {resolved : Field}
    (h : field table context decl = .ok resolved) : resolved.erase = decl := by
  rw [field] at h
  cases htype : TypeName.parse table decl.typeName with
  | error cause => simp [htype] at h
  | ok type =>
    rw [htype] at h
    cases h
    rw [Field.erase, (TypeName.parse_eq_ok_iff.mp htype).2]

theorem erase_of_fields {context : String} {decls : List FieldDecl} {resolved : List Field}
    (h : decls.mapM (field table context) = .ok resolved) : resolved.map Field.erase = decls := by
  rw [map_eq_of_mapM (fun _ _ => erase_of_field) h, List.map_id']

theorem erase_of_message {context : String} {id : MessageId} {decl : MessageDecl}
    {resolved : Message} (h : message table context id decl = .ok resolved) :
    resolved.erase = decl := by
  obtain ⟨fields, hfields, rfl⟩ := message_eq_ok_iff.mp h
  rw [Message.erase, erase_of_fields hfields]

theorem erase_of_events {context : String} {service method : UInt8} {count index : Nat}
    {decls : List MessageDecl} {resolved : List Message}
    (h : events table context service method count index decls = .ok resolved) :
    resolved.map Message.erase = decls := by
  have herase : List.Forall₂ (fun entry event => entry.1 = event.erase) (decls.zipIdx index)
      resolved :=
    (events_eq_ok_iff.mp h).imp fun _ _ ⟨_, _, hmessage⟩ => (erase_of_message hmessage).symm
  have hparts : (decls.zipIdx index).map (·.1) = resolved.map Message.erase := by
    rw [← List.forall₂_eq_eq_eq, List.forall₂_map_left_iff, List.forall₂_map_right_iff]
    exact herase
  rw [← hparts, List.zipIdx_map_fst]

theorem erase_of_method {service : ServiceDecl} {decl : MethodDecl} {resolved : Method}
    (h : method table service decl = .ok resolved) : resolved.erase = decl := by
  obtain ⟨events, request, response, hevents, hrequest, hresponse, rfl⟩ := method_eq_ok_iff.mp h
  rw [Method.erase, erase_of_message hrequest, erase_of_message hresponse, erase_of_events hevents]

theorem erase_of_customType {decl : CustomTypeDecl} {resolved : CustomType}
    (h : customType table decl = .ok resolved) : resolved.erase = decl := by
  simp only [customType, bind_eq_ok_iff, pure_eq_ok_iff] at h
  obtain ⟨fields, hfields, rfl⟩ := h
  rw [CustomType.erase, erase_of_fields hfields]

theorem erase_of_service {decl : ServiceDecl} {resolved : Service}
    (h : service table decl = .ok resolved) : resolved.erase = decl.inOrder := by
  obtain ⟨-, methods, customTypes, hmethods, htypes, rfl⟩ := service_eq_ok_iff.mp h
  have hordered : (sortById (·.id) methods).map Method.erase = sortById (·.id) decl.methods := by
    rw [map_sortById (·.id) (·.id) Method.erase fun _ => rfl,
      map_eq_of_mapM (fun _ _ => erase_of_method) hmethods, List.map_id']
  have htypes' : customTypes.map CustomType.erase = decl.customTypes := by
    rw [map_eq_of_mapM (fun _ _ => erase_of_customType) htypes, List.map_id']
  rw [Service.erase, ServiceDecl.inOrder, hordered, htypes']

theorem pairwise_methods {decl : ServiceDecl} {resolved : Service}
    (h : service table decl = .ok resolved) :
    resolved.methods.Pairwise fun x y => x.id < y.id := by
  obtain ⟨hids, methods, _, hmethods, -, rfl⟩ := service_eq_ok_iff.mp h
  refine pairwise_lt_sortById ?_
  rw [map_eq_of_mapM (fun _ _ => id_of_method) hmethods]
  exact hids

theorem sameDecl_inOrder (decl : ServiceDecl) : SameDecl decl decl.inOrder :=
  ⟨rfl, rfl, rfl, (sortById_perm decl.methods).symm⟩

end Resolution

open Resolution in
/-- Resolved services are in strict order by id, and so are their methods. Taking away what
resolving has added leaves the declarations in that order and nothing else changed, and resolving
these gives the same services. -/
theorem erase_of_resolve {table : TypeTable} {decls : List ServiceDecl} {services : List Service}
    (h : resolve table decls = .ok services) :
    (services.Pairwise fun x y => x.id < y.id) ∧
    (∀ service ∈ services, service.methods.Pairwise fun x y => x.id < y.id) ∧
    services.map Service.erase = ServiceDecl.allInOrder decls ∧
    resolve table (services.map Service.erase) = .ok services := by
  obtain ⟨hids, resolved, hresolved, hsorted⟩ := resolve_eq_ok_iff.mp h
  have hresolvedIds : (resolved.map (·.id)).Nodup := by
    rw [map_eq_of_mapM (fun _ _ => id_of_service) hresolved]
    exact hids
  have herase : services.map Service.erase = ServiceDecl.allInOrder decls := by
    rw [hsorted, map_sortById (·.id) (·.id) Service.erase fun _ => rfl,
      map_eq_of_mapM (fun _ _ => erase_of_service) hresolved]
    rfl
  refine ⟨hsorted ▸ pairwise_lt_sortById hresolvedIds, fun service hmem => ?_, herase, ?_⟩
  · obtain ⟨decl, -, hdecl⟩ := exists_of_mem_services h hmem
    exact pairwise_methods hdecl
  · have hsame : List.Forall₂ SameDecl decls (decls.map ServiceDecl.inOrder) :=
      List.forall₂_map_right_iff.mpr (List.forall₂_same.mpr fun decl _ => sameDecl_inOrder decl)
    rw [herase]
    exact resolve_of_sameDecls hsame (sortById_perm _).symm h

/-- Services and methods that are declared in the other order come back in order, each with its
types as they were written. -/
theorem erase_of_resolve_unordered :
    let items : FieldDecl := ⟨"items", "ListCN_Data", true, some "2.1", none⟩
    let listen : MethodDecl := ⟨1, "listen", some "2.0", none, ⟨none, []⟩, ⟨none, []⟩,
      [⟨some "added", [items]⟩, ⟨some "removed", [items]⟩]⟩
    let poll : MethodDecl := ⟨2, "poll", none, some "Takes one.",
      ⟨none, [⟨"name", "String", false, none, none⟩]⟩, ⟨none, [items]⟩, []⟩
    let queue : ServiceDecl := ⟨9, "queue", [poll, listen], []⟩
    let map : ServiceDecl := ⟨2, "map", [],
      [⟨"Entry", none, [⟨"slots", "Map_String_Enum_Int32_Slot_Kind", false, none, none⟩]⟩]⟩
    ∃ services, resolve .standard [queue, map] = .ok services ∧
      services.map Service.erase = [map, { queue with methods := [listen, poll] }] ∧
      resolve .standard (services.map Service.erase) = .ok services := by
  intro items listen poll queue map
  obtain ⟨services, hresolve⟩ : ∃ services, resolve .standard [queue, map] = .ok services := by
    have hsome : (resolve .standard [queue, map]).toOption.isSome := by decide +kernel
    obtain ⟨services, hservices⟩ := Option.isSome_iff_exists.mp hsome
    exact ⟨services, eq_ok_of_toOption hservices⟩
  obtain ⟨-, -, herase, hagain⟩ := erase_of_resolve hresolve
  exact ⟨services, hresolve, herase.trans (by cbv), hagain⟩

end WireCodecs
