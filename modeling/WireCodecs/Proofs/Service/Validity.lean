import WireCodecs.Proofs.Service.Accepted
import WireCodecs.Proofs.Service.Faults
import WireCodecs.Proofs.Service.Order

/-! The schema of service documents against the readers of declarations. A reader takes every value
that its schema accepts, with one exception: `1.0` is an integer for the schema and none for the
readers, so a service or method whose id is written that way is valid and cannot be read. -/

namespace WireCodecs

namespace Json

/-- The id is not written as a floating-point number. -/
def HasWholeId (value : Json) : Prop := ∀ x, value.get? "id" ≠ some (.float x)

/-- Neither the id of a service is written as a floating-point number nor that of a method. -/
def HasWholeIds (value : Json) : Prop :=
  value.HasWholeId ∧ ∀ methods, value.get? "methods" = some (.array methods) →
    ∀ method ∈ methods, method.HasWholeId

end Json

namespace Reader

section Entries

variable {α β : Type} {reader : Reader α} {key : String} {entries : List (String × Json)}

theorem exists_entryAt?_iff : (∃ found, entryAt? entries key reader = .ok found) ↔
    ∀ value, entries.lookup key = some value → ∃ a, reader value = .ok a := by
  rw [entryAt?]
  cases entries.lookup key with
  | none => simp
  | some value => simp [map_eq_ok_iff]

theorem entryAt?_of_lookup {value : Json} {a : α} (hvalue : entries.lookup key = some value)
    (ha : reader value = .ok a) : entryAt? entries key reader = .ok (some a) := by
  rw [entryAt?, hvalue]
  exact map_eq_ok_iff.mpr ⟨a, ha, rfl⟩

theorem ne_float_of_entryAt? {found : Option UInt8} (h : entryAt? entries key byte = .ok found)
    (x : Binary64) : entries.lookup key ≠ some (.float x) := by
  intro hfloat
  obtain ⟨n, hn⟩ := exists_entryAt?_iff.mp ⟨found, h⟩ _ hfloat
  cases hn

/-- What is read of a list comes out of the items of an array. -/
theorem cases_of_entryAt?_list {found : Option (List α)}
    (h : entryAt? entries key (list reader) = .ok found) :
    found.getD [] = [] ∨ ∃ items, entries.lookup key = some (.array items) ∧
      items.mapM reader = .ok (found.getD []) := by
  rw [entryAt?] at h
  cases hvalue : entries.lookup key with
  | none =>
    rw [hvalue] at h
    obtain rfl := Except.ok.inj h
    exact .inl rfl
  | some value =>
    rw [hvalue] at h
    obtain ⟨results, hresults, rfl⟩ := map_eq_ok_iff.mp h
    cases value with
    | null =>
      obtain rfl := Except.ok.inj hresults
      exact .inl rfl
    | array items => exact .inr ⟨items, rfl, hresults⟩
    | bool _ | int _ | float _ | string _ | object _ => cases hresults

/-- A field list is read if it is not under both keys. -/
theorem exists_readFieldList {reader : Reader (List FieldDecl)} {between : Except DocumentError β}
    {middle : β} (hbetween : between = .ok middle)
    (hfields : ∃ found, entryAt? entries "fields" reader = .ok found)
    (hparams : ∃ found, entryAt? entries "params" reader = .ok found)
    (hone : entries.lookup "fields" = none ∨ entries.lookup "params" = none) :
    ∃ fields, readFieldList entries reader between = .ok (fields, middle) := by
  rw [exists_entryAt?_iff] at hfields hparams
  rw [readFieldList, entryAt?, hbetween]
  cases hvalue : entries.lookup "fields" with
  | none =>
    cases hother : entries.lookup "params" with
    | none => exact ⟨_, rfl⟩
    | some params =>
      obtain ⟨fields, hread⟩ := hparams params hother
      refine ⟨fields, ?_⟩
      simp [bind, Except.bind, hread, pure, Except.pure]
  | some value =>
    obtain ⟨fields, hread⟩ := hfields value hvalue
    refine ⟨fields, ?_⟩
    have hother : entries.lookup "params" = none := by simpa [hvalue] using hone
    simp [bind, Except.bind, Functor.map, Except.map, hread, hother, pure, Except.pure]

end Entries

section Coverage

variable {α : Type} {reader : Reader α}

/-- A reader takes every value that a schema accepts. -/
def Covers (reader : Reader α) (schema : Schema) : Prop :=
  ∀ value, schema.Accepts value → ∃ a, reader value = .ok a

theorem covers_text {rules : List Rule} (h : .kinds [.string] ∈ rules) :
    text.Covers (.rules rules) := by
  intro value hvalue
  obtain ⟨content, rfl⟩ := hvalue.exists_string h
  exact ⟨content, rfl⟩

theorem Covers.optional {schema : Schema} (h : reader.Covers schema) :
    (optional reader).Covers schema := by
  intro value hvalue
  obtain ⟨a, ha⟩ := h value hvalue
  cases value with
  | null => exact ⟨none, rfl⟩
  | bool _ | int _ | float _ | string _ | array _ | object _ =>
    exact ⟨some a, map_eq_ok_iff.mpr ⟨a, ha, rfl⟩⟩

theorem Covers.list {item : Schema} {rules : List Rule} (h : reader.Covers item)
    (hfree : item.isPositionFree false) (hitems : .items item ∈ rules)
    (hkinds : .kinds [.array, .null] ∈ rules) : (list reader).Covers (.rules rules) := by
  intro value hvalue
  rcases ServiceSchema.cases_of_listOf hfree hitems hkinds hvalue with rfl | ⟨items, rfl, hall⟩
  · exact ⟨[], rfl⟩
  · exact exists_mapM_iff.mpr fun item hitem => h item (hall item hitem)

variable {members : List (String × Schema)} {entries : List (String × Json)} {schema : Schema}

/-- The members of an accepted object are read if their readers cover their schemas. -/
theorem Covers.exists_entryAt? (h : reader.Covers schema) (key : String)
    (hmembers : Schema.AcceptsMembers members entries)
    (hmember : (key, schema) ∈ members) : ∃ found, entryAt? entries key reader = .ok found :=
  exists_entryAt?_iff.mpr fun value hvalue => h value (hmembers _ hmember value hvalue)

theorem Covers.exists_entryAt?_some (h : reader.Covers schema) (key : String)
    (hmembers : Schema.AcceptsMembers members entries)
    (hmember : (key, schema) ∈ members) (hkey : ∃ value, entries.lookup key = some value) :
    ∃ a, entryAt? entries key reader = .ok (some a) := by
  obtain ⟨value, hvalue⟩ := hkey
  obtain ⟨a, ha⟩ := h value (hmembers _ hmember value hvalue)
  exact ⟨a, entryAt?_of_lookup hvalue ha⟩

end Coverage

end Reader

open Reader

section Coverage

theorem covers_optional_text : (optional text).Covers ServiceSchema.text :=
  (covers_text (.head _)).optional

theorem covers_identifier : text.Covers ServiceSchema.identifier := covers_text (by simp)

theorem covers_version : (optional text).Covers ServiceSchema.version :=
  (covers_text (by simp)).optional

theorem covers_boolean : boolean.Covers (.rules [.kinds [.boolean]]) := by
  intro value hvalue
  obtain ⟨kind, hkind, hcontains⟩ := hvalue.kind (.head _)
  obtain rfl := List.mem_singleton.mp hkind
  cases value <;> simp [JsonKind.contains, boolean] at hcontains ⊢

theorem FieldDecl.covers_read : FieldDecl.read.Covers ServiceSchema.field := by
  intro value hvalue
  obtain ⟨entries, rfl⟩ := hvalue.exists_object (by simp)
  have hmembers := hvalue.members (.head _) rfl
  have hrequired := hvalue.exists_required (.tail _ (.head _))
  obtain ⟨doc, hdoc⟩ := covers_optional_text.exists_entryAt? "doc" hmembers (by simp)
  obtain ⟨name, hname⟩ := covers_identifier.exists_entryAt?_some "name" hmembers (by simp)
    (hrequired _ (by simp))
  obtain ⟨nullable, hnullable⟩ := covers_boolean.exists_entryAt? "nullable" hmembers (by simp)
  obtain ⟨since, hsince⟩ := covers_version.exists_entryAt? "since" hmembers (by simp)
  obtain ⟨type, htype⟩ := covers_identifier.exists_entryAt?_some "type" hmembers (by simp)
    (hrequired _ (by simp))
  rw [read, ofEntries, hdoc, hname, hnullable, hsince, htype]
  exact ⟨_, rfl⟩

theorem covers_fields : (list FieldDecl.read).Covers ServiceSchema.fields :=
  FieldDecl.covers_read.list rfl (.head _) (.tail _ (.head _))

/-- What the schema has a rule against is a field list under both keys. -/
theorem lookup_eq_none_of_oneFieldList {rules : List Rule} {entries : List (String × Json)}
    (h : (Schema.rules rules).Accepts (.object entries))
    (hrule : ServiceSchema.oneFieldList ∈ rules) :
    entries.lookup "fields" = none ∨ entries.lookup "params" = none :=
  ServiceSchema.accepts_oneFieldList_iff.mp (Schema.accepts_rules_iff.mp h _ hrule)

theorem MessageDecl.covers_read : MessageDecl.read.Covers ServiceSchema.message := by
  intro value hvalue
  obtain ⟨entries, rfl⟩ := hvalue.exists_object (by simp)
  have hmembers := hvalue.members (.head _) rfl
  obtain ⟨name, hname⟩ := covers_identifier.optional.exists_entryAt? "name" hmembers (by simp)
  obtain ⟨fields, hfields⟩ := exists_readFieldList hname
    (covers_fields.exists_entryAt? "fields" hmembers (by simp))
    (covers_fields.exists_entryAt? "params" hmembers (by simp))
    (lookup_eq_none_of_oneFieldList hvalue (by simp))
  rw [read, ofEntries, hfields]
  exact ⟨_, rfl⟩

theorem CustomTypeDecl.covers_read : CustomTypeDecl.read.Covers ServiceSchema.customType := by
  intro value hvalue
  obtain ⟨entries, rfl⟩ := hvalue.exists_object (by simp)
  have hmembers := hvalue.members (.head _) rfl
  have hrequired := hvalue.exists_required (.tail _ (.tail _ (.head _)))
  obtain ⟨name, hname⟩ := covers_identifier.exists_entryAt?_some "name" hmembers (by simp)
    (hrequired _ (by simp))
  obtain ⟨since, hsince⟩ := covers_version.exists_entryAt? "since" hmembers (by simp)
  obtain ⟨fields, hfields⟩ := exists_readFieldList hname
    (covers_fields.exists_entryAt? "fields" hmembers (by simp))
    (covers_fields.exists_entryAt? "params" hmembers (by simp))
    (lookup_eq_none_of_oneFieldList hvalue (by simp))
  rw [read, ofEntries, hfields]
  -- the name and the version come out of the chain as they were read
  simp only [bind, Except.bind, hsince]
  exact ⟨_, rfl⟩

end Coverage

section Ids

/-- An accepted id that is not written as a floating-point number is a byte. -/
theorem exists_entryAt?_id {members : List (String × Schema)} {entries : List (String × Json)}
    (hmembers : Schema.AcceptsMembers members entries)
    (hmember : ("id", ServiceSchema.byteId) ∈ members)
    (hid : ∃ value, entries.lookup "id" = some value)
    (hwhole : (Json.object entries).HasWholeId) :
    ∃ id, entryAt? entries "id" byte = .ok (some id) := by
  obtain ⟨value, hvalue⟩ := hid
  rcases ServiceSchema.cases_of_byteId (hmembers _ hmember value hvalue) with
    ⟨n, rfl, hmin, hmax⟩ | ⟨x, rfl⟩
  · refine ⟨UInt8.ofNat n.toNat, entryAt?_of_lookup hvalue ?_⟩
    rw [byte, if_pos (by simp [hmin, hmax])]
  · exact absurd hvalue (hwhole x)

theorem MethodDecl.hasWholeId_of_read {value : Json} {decl : MethodDecl}
    (h : MethodDecl.read value = .ok decl) : value.HasWholeId := by
  cases value with
  | object entries =>
    simp only [MethodDecl.read, MethodDecl.ofEntries, bind_eq_ok_iff] at h
    obtain ⟨_, -, _, -, id, hid, -⟩ := h
    exact ne_float_of_entryAt? hid
  | null | bool _ | int _ | float _ | string _ | array _ => intro x hx; cases hx

theorem MethodDecl.exists_read {value : Json} (h : ServiceSchema.method.Accepts value)
    (hwhole : value.HasWholeId) : ∃ decl, MethodDecl.read value = .ok decl := by
  obtain ⟨entries, rfl⟩ := h.exists_object (by simp)
  have hmembers := h.members (.head _) rfl
  have hrequired := h.exists_required (.tail _ (.head _))
  have hevents : (list MessageDecl.read).Covers
      (.rules [.items ServiceSchema.message, .size .maxItems 254, .kinds [.array, .null]]) :=
    MessageDecl.covers_read.list rfl (.head _) (by simp)
  obtain ⟨doc, hdoc⟩ := covers_optional_text.exists_entryAt? "doc" hmembers (by simp)
  obtain ⟨events, hevents⟩ := hevents.exists_entryAt? "events" hmembers (by simp)
  obtain ⟨id, hid⟩ := exists_entryAt?_id hmembers (by simp) (hrequired _ (by simp)) hwhole
  obtain ⟨name, hname⟩ := covers_identifier.exists_entryAt?_some "name" hmembers (by simp)
    (hrequired _ (by simp))
  obtain ⟨request, hrequest⟩ := MessageDecl.covers_read.exists_entryAt?_some "request" hmembers
    (by simp) (hrequired _ (by simp))
  obtain ⟨response, hresponse⟩ := MessageDecl.covers_read.exists_entryAt?_some "response" hmembers
    (by simp) (hrequired _ (by simp))
  obtain ⟨since, hsince⟩ := covers_version.exists_entryAt? "since" hmembers (by simp)
  rw [read, ofEntries, hdoc, hevents, hid, hname, hrequest, hresponse, hsince]
  exact ⟨_, rfl⟩

/-- A method that the schema accepts has no more events than can be told apart. -/
theorem MethodDecl.length_events_le {value : Json} {decl : MethodDecl}
    (h : ServiceSchema.method.Accepts value) (hread : MethodDecl.read value = .ok decl) :
    decl.events.length ≤ 254 := by
  obtain ⟨entries, rfl⟩ := h.exists_object (by simp)
  have hmembers := h.members (.head _) rfl
  simp only [read, ofEntries, bind_eq_ok_iff, pure_eq_ok_iff] at hread
  obtain ⟨_, -, events, hevents, _, -, _, -, _, -, _, -, _, -, _, -, _, -, _, -, _, -, rfl⟩ := hread
  show (events.getD []).length ≤ 254
  rcases cases_of_entryAt?_list hevents with hnone | ⟨items, hitems, hread⟩
  · rw [hnone]
    exact Nat.zero_le 254
  · rw [← (mapM_eq_ok_iff.mp hread).length_eq]
    have haccepts := hmembers _ (.tail _ (.head _)) _ hitems
    exact Schema.accepts_maxItems_iff.mp (Schema.accepts_rules_iff.mp haccepts _ (by simp))

theorem ServiceDecl.hasWholeIds_of_read {value : Json} {decl : ServiceDecl}
    (h : ServiceDecl.read value = .ok decl) : value.HasWholeIds := by
  cases value with
  | object entries =>
    simp only [ServiceDecl.read, ServiceDecl.ofEntries, bind_eq_ok_iff] at h
    obtain ⟨_, -, id, hid, methods, hmethods, -⟩ := h
    refine ⟨ne_float_of_entryAt? hid, fun items hitems method hmethod => ?_⟩
    obtain ⟨decls, hdecls⟩ := exists_entryAt?_iff.mp ⟨methods, hmethods⟩ _ hitems
    obtain ⟨decl, hdecl⟩ := exists_mapM_iff.mp ⟨decls, hdecls⟩ method hmethod
    exact MethodDecl.hasWholeId_of_read hdecl
  | null | bool _ | int _ | float _ | string _ | array _ =>
    refine ⟨fun x hx => ?_, fun methods hmethods => ?_⟩
    · cases hx
    · cases hmethods

theorem ServiceDecl.exists_read_iff {value : Json} (h : ServiceSchema.service.Accepts value) :
    (∃ decl, ServiceDecl.read value = .ok decl) ↔ value.HasWholeIds := by
  constructor
  · rintro ⟨decl, hdecl⟩
    exact hasWholeIds_of_read hdecl
  · rintro ⟨hwhole, hmethodIds⟩
    obtain ⟨entries, rfl⟩ := h.exists_object (by simp)
    have hmembers := h.members (.head _) rfl
    have hrequired := h.exists_required (.tail _ (.head _))
    have htypes : (list CustomTypeDecl.read).Covers
        (ServiceSchema.listOf ServiceSchema.customType) :=
      CustomTypeDecl.covers_read.list rfl (.head _) (.tail _ (.head _))
    obtain ⟨types, htypes⟩ := htypes.exists_entryAt? "customTypes" hmembers (by simp)
    obtain ⟨id, hid⟩ := exists_entryAt?_id hmembers (by simp) (hrequired _ (by simp)) hwhole
    obtain ⟨methods, hmethods⟩ :
        ∃ found, entryAt? entries "methods" (list MethodDecl.read) = .ok found := by
      refine exists_entryAt?_iff.mpr fun value hvalue => ?_
      have haccepts := hmembers ("methods", ServiceSchema.listOf ServiceSchema.method) (by simp)
        value hvalue
      rcases ServiceSchema.cases_of_listOf rfl (.head _) (.tail _ (.head _)) haccepts with
        rfl | ⟨items, rfl, hall⟩
      · exact ⟨[], rfl⟩
      · exact exists_mapM_iff.mpr fun item hitem =>
          MethodDecl.exists_read (hall item hitem) (hmethodIds items hvalue item hitem)
    obtain ⟨name, hname⟩ := covers_identifier.exists_entryAt?_some "name" hmembers (by simp)
      (hrequired _ (by simp))
    rw [read, ofEntries, htypes, hid, hmethods, hname]
    exact ⟨_, rfl⟩

theorem ServiceDecl.length_events_le {value : Json} {decl : ServiceDecl}
    (h : ServiceSchema.service.Accepts value) (hread : ServiceDecl.read value = .ok decl) :
    ∀ method ∈ decl.methods, method.events.length ≤ 254 := by
  obtain ⟨entries, rfl⟩ := h.exists_object (by simp)
  have hmembers := h.members (.head _) rfl
  simp only [read, ofEntries, bind_eq_ok_iff, pure_eq_ok_iff] at hread
  obtain ⟨_, -, _, -, methods, hmethods, _, -, _, -, _, -, rfl⟩ := hread
  intro method hmethod
  change method ∈ methods.getD [] at hmethod
  rcases cases_of_entryAt?_list hmethods with hnone | ⟨items, hitems, hread⟩
  · rw [hnone] at hmethod
    cases hmethod
  · obtain ⟨item, hitem, hitemRead⟩ := exists_mem_of_mapM hread hmethod
    have haccepts := hmembers ("methods", ServiceSchema.listOf ServiceSchema.method) (by simp)
      _ hitems
    obtain ⟨items', heq, hall⟩ := (ServiceSchema.cases_of_listOf rfl (.head _) (.tail _ (.head _))
      haccepts).resolve_left (by simp)
    obtain rfl := Json.array.inj heq
    exact MethodDecl.length_events_le (hall item hitem) hitemRead

end Ids

/-- Valid documents are read exactly if no id of a service or method in them is written as a
floating-point number, and what is read of them never has too many events. -/
theorem declarations_of_valid {documents : List ServiceDocument}
    (h : ∀ document ∈ documents, ServiceSchema.set.violations document.value = []) :
    ((∃ decls, ServiceDocument.declarations documents = .ok decls) ↔
      ∀ document ∈ documents, document.value.HasWholeIds) ∧
    ∀ decls, ServiceDocument.declarations documents = .ok decls →
      ∀ table context count, resolve table decls ≠ .error (.tooManyEvents context count) := by
  have haccepts : ∀ document ∈ documents, ServiceSchema.service.Accepts document.value :=
    fun document hdocument => ServiceSchema.violations_eq_nil_iff.mp (h document hdocument)
  constructor
  · rw [ServiceDocument.declarations, exists_mapM_iff]
    refine forall₂_congr fun document hdocument => ?_
    simp only [declaration_eq_ok_iff]
    exact ServiceDecl.exists_read_iff (haccepts document hdocument)
  · intro decls hdecls table context count hresolve
    have hfirst := (failsFirst_resolve table decls _).mp hresolve
    obtain ⟨decl, hdecl, method, hmethod, hmany⟩ :=
      Resolution.exists_of_tooManyEvents (List.mem_of_head? hfirst)
    obtain ⟨document, hdocument, hread⟩ := exists_mem_of_mapM hdecls hdecl
    have hfew := ServiceDecl.length_events_le (haccepts document hdocument)
      (declaration_eq_ok_iff.mp hread) method hmethod
    omega

/-- A valid service is not read if its id is `1.0`. -/
theorem declarations_of_valid_floating_id :
    let one : Binary64 := ⟨false, Nat.pow 2 52, -52⟩
    let message : Json := .object [("params", .null)]
    let method : Json := .object [("events", .array [message]), ("id", .int 1),
      ("name", .string "put"), ("request", message), ("response", message)]
    let document (id : Json) : ServiceDocument :=
      ⟨"map.yaml", .object [("id", id), ("methods", .array [method]), ("name", .string "map")]⟩
    (∃ decls, ServiceDocument.declarations [document (.int 1)] = .ok decls) ∧
      ServiceSchema.set.violations (document (.float one)).value = [] ∧
      ¬∃ decls, ServiceDocument.declarations [document (.float one)] = .ok decls := by
  intro one message method document
  have hwhole : ∀ other ∈ [document (.int 1)],
      ServiceSchema.set.violations other.value = [] := by decide +kernel
  have hfloat : ∀ other ∈ [document (.float one)],
      ServiceSchema.set.violations other.value = [] := by decide +kernel
  refine ⟨(declarations_of_valid hwhole).1.mpr ?_, hfloat _ (.head _), fun hread => ?_⟩
  · intro other hother
    obtain rfl := List.mem_singleton.mp hother
    refine ⟨fun x hx => ?_, fun methods hmethods target htarget x hx => ?_⟩
    · cases hx
    · cases hmethods
      obtain rfl := List.mem_singleton.mp htarget
      cases hx
  · have hids := (declarations_of_valid hfloat).1.mp hread _ (.head _)
    exact hids.1 one rfl

end WireCodecs
