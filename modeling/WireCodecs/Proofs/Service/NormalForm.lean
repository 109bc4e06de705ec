import WireCodecs.Proofs.Service.Order
import WireCodecs.Proofs.Service.Respelling

/-! The form in which declarations are written. A declaration is read from it again, whatever the
document was like that it came from; and if the schema accepts that document, it accepts the form
too. Both hold of texts, bytes and Booleans first, and of each record once they hold of its
parts. -/

namespace WireCodecs

namespace Json

section Entries

theorem lookup_insertEntry (key : String) (value : Json) (entries : List (String × Json))
    (other : String) : (insertEntry key value entries).lookup other =
      if other = key then some value else entries.lookup other := by
  induction entries with
  | nil => grind [insertEntry]
  | cons entry rest ih => grind [insertEntry]

theorem lookup_foldl_insertEntry (entries sorted : List (String × Json)) (key : String) :
    (entries.foldl (fun sorted entry => insertEntry entry.1 entry.2 sorted) sorted).lookup key =
      (entries.reverse.lookup key).or (sorted.lookup key) := by
  induction entries generalizing sorted with
  | nil => rfl
  | cons entry rest ih =>
    rw [List.foldl_cons, ih, lookup_insertEntry, List.reverse_cons, List.lookup_append,
      Option.or_assoc]
    grind

/-- The entries for those keys that have a value. -/
def presentEntries (parts : List (String × Option Json)) : List (String × Json) :=
  parts.filterMap fun part => part.2.map (part.1, ·)

/-- With distinct keys, the last entry of a key is the only one. -/
theorem lookup_reverse_presentEntries {parts : List (String × Option Json)}
    (hnodup : (parts.map (·.1)).Nodup) (key : String) :
    (presentEntries parts).reverse.lookup key = (parts.lookup key).join := by
  induction parts with
  | nil => rfl
  | cons part rest ih =>
    obtain ⟨name, found⟩ := part
    obtain ⟨hname, hrest⟩ := List.nodup_cons.mp hnodup
    -- an entry of the same name further on would count instead of this one
    have habsent : rest.lookup name = none := by grind [List.lookup_eq_none_iff]
    have hcons : (presentEntries ((name, found) :: rest)).reverse =
        (presentEntries rest).reverse ++ (found.map (name, ·)).toList := by
      cases found <;> simp [presentEntries]
    rw [hcons, List.lookup_append, ih hrest]
    cases found <;> grind

/-- The value is the object with an entry for each of the parts that has a value. -/
structure HasParts (value : Json) (parts : List (String × Option Json)) : Prop where
  nodup : (parts.map (·.1)).Nodup
  eq_ofEntries : value = ofEntries (presentEntries parts)

namespace HasParts

variable {value : Json} {parts : List (String × Option Json)}

theorem part?_eq (h : value.HasParts parts) (key : String) (index : Nat) :
    value.part? key index = (parts.lookup key).join := by
  rw [h.eq_ofEntries, ofEntries, part?, lookup_foldl_insertEntry, List.lookup_nil, Option.or_none,
    lookup_reverse_presentEntries h.nodup]

theorem hasKeysAmong (h : value.HasParts parts) {keys : List String}
    (hkeys : parts.map (·.1) ⊆ keys) : value.HasKeysAmong keys := by
  have hlookup := h.part?_eq
  rw [h.eq_ofEntries] at hlookup ⊢
  intro key hkey
  have habsent : parts.lookup key = none := by
    refine List.lookup_eq_none_iff.mpr fun part hpart => bne_iff_ne.mpr fun heq => hkey (hkeys ?_)
    exact heq ▸ List.mem_map_of_mem hpart
  have hpart := hlookup key 0
  rwa [habsent] at hpart

/-- A field list that is written under its first key is found there and not under the second. -/
theorem fieldList?_eq (h : value.HasParts parts) {fields : Json}
    (hfields : parts.lookup "fields" = some (some fields)) (hparams : parts.lookup "params" = none)
    (index : Nat) : value.HasOneFieldList ∧ value.fieldList? index = some fields := by
  have hfirst := h.part?_eq "fields" index
  have hsecond := h.part?_eq "params" index
  rw [hfields] at hfirst
  rw [hparams] at hsecond
  rw [h.eq_ofEntries] at hfirst hsecond ⊢
  refine ⟨.inr hsecond, ?_⟩
  rw [ofEntries, fieldList?]
  exact congrArg (Option.or · _) hfirst

end HasParts

end Entries

end Json

open Json Reader

section Parts

namespace Reader

variable {α : Type} {reader : Reader α} {write : α → Json}

/-- What is written is read again. -/
def Inverts (reader : Reader α) (write : α → Json) : Prop := ∀ a, reader (write a) = .ok a

theorem text_inverts : text.Inverts .string := fun _ => rfl

theorem boolean_inverts : boolean.Inverts .bool := fun _ => rfl

theorem byte_inverts : byte.Inverts fun id => .int id.toNat := by
  intro id
  have hlt := id.toNat_lt
  rw [byte, if_pos (by simp; omega), Int.toNat_natCast, UInt8.ofNat_toNat]

theorem Inverts.finds (h : reader.Inverts write) (a : α) :
    Finds reader (some (write a)) (some a) := ⟨a, h a, rfl⟩

theorem Inverts.findsOr (h : reader.Inverts write) (default a : α) :
    FindsOr default reader (some (write a)) a := h a

theorem findsOr_optional_text (found : Option String) :
    FindsOr none (optional text) (found.map .string) found := by
  cases found <;> rfl

theorem Inverts.list (h : reader.Inverts write) :
    (list reader).Inverts fun as => .array (as.map write) := by
  intro as
  refine mapM_eq_ok_iff.mpr ?_
  rw [List.forall₂_map_left_iff]
  exact List.forall₂_same.mpr fun a _ => h a

end Reader

namespace Schema

variable {α : Type} {schema item : Schema} {reader : Reader α} {write : α → Json}

/-- What is read of an accepted value is written as an accepted one. -/
def AcceptsWritten (schema : Schema) (reader : Reader α) (write : α → Json) : Prop :=
  ∀ ⦃value a⦄, schema.Accepts value → reader value = .ok a → schema.Accepts (write a)

/-- If a reader reads nothing but what is written, it makes no difference to read and write. -/
theorem acceptsWritten_of_eq (h : ∀ ⦃value a⦄, reader value = .ok a → value = write a) :
    schema.AcceptsWritten reader write := by
  intro value a haccepts hread
  rwa [← h hread]

theorem AcceptsWritten.acceptsOne (h : schema.AcceptsWritten reader write) {part : Option Json}
    {a : α} (hpart : schema.AcceptsOne part) (hfound : Finds reader part (some a)) :
    schema.AcceptsOne (some (write a)) := by
  obtain ⟨value, rfl, haccepts⟩ := hpart
  obtain ⟨a', hread, ha⟩ := hfound
  obtain rfl := Option.some.inj ha
  exact acceptsOne_some.mpr (h haccepts hread)

theorem AcceptsWritten.acceptsPart_list (h : item.AcceptsWritten reader write)
    {allowed : Nat → Prop} (hlist : schema.IsListOf item allowed) {part : Option Json} {as : List α}
    (hpart : schema.AcceptsPart part) (hfound : FindsOr [] (list reader) part as) :
    schema.AcceptsPart (some (.array (as.map write))) := by
  rw [acceptsPart_some, hlist.accepts_iff, AcceptsItems, List.length_map, List.forall_mem_map]
  -- whatever stands for the empty list, an empty array is written for it
  have hnil : allowed ([] : List α).length ∧ ∀ a ∈ ([] : List α), item.Accepts (write a) :=
    ⟨hlist.nil, by simp⟩
  cases part with
  | none =>
    obtain rfl : as = [] := hfound
    exact hnil
  | some value =>
    have haccepts := (hlist.accepts_iff value).mp (acceptsPart_some.mp hpart)
    cases value with
    | null =>
      obtain rfl := Except.ok.inj hfound
      exact hnil
    | array items =>
      have hread : items.mapM reader = .ok as := hfound
      rw [← (mapM_eq_ok_iff.mp hread).length_eq]
      refine ⟨haccepts.1, fun a ha => ?_⟩
      obtain ⟨value, hvalue, hread⟩ := exists_mem_of_mapM hread ha
      exact h (haccepts.2 value hvalue) hread
    | bool _ | int _ | float _ | string _ | object _ => exact haccepts.elim

/-- A text that may be left out is written if it is there. -/
theorem acceptsPart_optional_text {part : Option Json} {found : Option String}
    (hpart : schema.AcceptsPart part) (hfound : FindsOr none (optional text) part found) :
    schema.AcceptsPart (found.map .string) := by
  cases found with
  | none => exact acceptsPart_none
  | some a =>
    cases part with
    | none => cases hfound
    | some value =>
      cases value with
      | string a' =>
        obtain rfl := Option.some.inj (Except.ok.inj hfound)
        exact hpart
      | null | bool _ | int _ | float _ | array _ | object _ => cases hfound

end Schema

theorem eq_string_of_text ⦃value : Json⦄ ⦃a : String⦄ (h : text value = .ok a) :
    value = .string a := by
  cases value with
  | string a' => rw [Except.ok.inj h]
  | null | bool _ | int _ | float _ | array _ | object _ => cases h

theorem eq_int_of_byte ⦃value : Json⦄ ⦃id : UInt8⦄ (h : byte value = .ok id) :
    value = .int id.toNat := by
  cases value with
  | int n =>
    rw [byte] at h
    split at h
    · next hrange =>
      obtain rfl := Except.ok.inj h
      simp at hrange
      simp
      omega
    · cases h
  | null | bool _ | float _ | string _ | array _ | object _ => cases h

/-- Nothing is read as a text but the text itself, so that it makes no difference to read and write
it. -/
theorem text_acceptsWritten (schema : Schema) : schema.AcceptsWritten text .string :=
  Schema.acceptsWritten_of_eq eq_string_of_text

theorem byte_acceptsWritten (schema : Schema) :
    schema.AcceptsWritten byte fun id => .int id.toNat :=
  Schema.acceptsWritten_of_eq eq_int_of_byte

end Parts

section Records

namespace FieldDecl

/-- What a field is written as, part by part. -/
def parts (field : FieldDecl) : List (String × Option Json) :=
  [("name", some (.string field.name)), ("type", some (.string field.typeName)),
    ("nullable", some (.bool field.nullable)), ("since", field.since.map .string),
    ("doc", field.doc.map .string)]

theorem hasParts (field : FieldDecl) : field.toJson.HasParts field.parts := by
  refine ⟨by simp [parts], ?_⟩
  obtain ⟨name, type, nullable, since, doc⟩ := field
  cases since <;> cases doc <;> rfl

theorem writtenAs_toJson (field : FieldDecl) : field.WrittenAs field.toJson := by
  simp only [WrittenAs, field.hasParts.part?_eq]
  exact ⟨trivial, text_inverts.finds _, text_inverts.finds _, boolean_inverts.findsOr _ _,
    findsOr_optional_text _, findsOr_optional_text _⟩

theorem read_inverts : read.Inverts toJson :=
  fun field => read_eq_ok_iff.mpr field.writtenAs_toJson

end FieldDecl

namespace MessageDecl

def parts (message : MessageDecl) : List (String × Option Json) :=
  [("name", message.name.map .string),
    ("fields", some (.array (message.fields.map FieldDecl.toJson)))]

theorem hasParts (message : MessageDecl) : message.toJson.HasParts message.parts := by
  refine ⟨by simp [parts], ?_⟩
  obtain ⟨name, fields⟩ := message
  cases name <;> rfl

theorem fieldList?_toJson (message : MessageDecl) (index : Nat) :
    message.toJson.HasOneFieldList ∧ message.toJson.fieldList? index =
      some (.array (message.fields.map FieldDecl.toJson)) :=
  message.hasParts.fieldList?_eq rfl rfl index

theorem writtenAs_toJson (message : MessageDecl) : message.WrittenAs message.toJson := by
  obtain ⟨hone, hfields⟩ := message.fieldList?_toJson 1
  rw [WrittenAs, message.hasParts.part?_eq, hfields]
  exact ⟨trivial, hone, findsOr_optional_text _, FieldDecl.read_inverts.list.findsOr _ _⟩

theorem read_inverts : read.Inverts toJson :=
  fun message => read_eq_ok_iff.mpr message.writtenAs_toJson

end MessageDecl

namespace MethodDecl

def parts (method : MethodDecl) : List (String × Option Json) :=
  [("id", some (.int method.id.toNat)), ("name", some (.string method.name)),
    ("since", method.since.map .string), ("doc", method.doc.map .string),
    ("request", some method.request.toJson), ("response", some method.response.toJson),
    ("events", some (.array (method.events.map MessageDecl.toJson)))]

theorem hasParts (method : MethodDecl) : method.toJson.HasParts method.parts := by
  refine ⟨by simp [parts], ?_⟩
  obtain ⟨id, name, since, doc, request, response, events⟩ := method
  cases since <;> cases doc <;> rfl

theorem writtenAs_toJson (method : MethodDecl) : method.WrittenAs method.toJson := by
  simp only [WrittenAs, method.hasParts.part?_eq]
  exact ⟨trivial, byte_inverts.finds _, text_inverts.finds _, findsOr_optional_text _,
    findsOr_optional_text _, MessageDecl.read_inverts.finds _, MessageDecl.read_inverts.finds _,
    MessageDecl.read_inverts.list.findsOr _ _⟩

theorem read_inverts : read.Inverts toJson :=
  fun method => read_eq_ok_iff.mpr method.writtenAs_toJson

end MethodDecl

namespace CustomTypeDecl

def parts (type : CustomTypeDecl) : List (String × Option Json) :=
  [("name", some (.string type.name)), ("since", type.since.map .string),
    ("fields", some (.array (type.fields.map FieldDecl.toJson)))]

theorem hasParts (type : CustomTypeDecl) : type.toJson.HasParts type.parts := by
  refine ⟨by simp [parts], ?_⟩
  obtain ⟨name, since, fields⟩ := type
  cases since <;> rfl

theorem fieldList?_toJson (type : CustomTypeDecl) (index : Nat) :
    type.toJson.HasOneFieldList ∧ type.toJson.fieldList? index =
      some (.array (type.fields.map FieldDecl.toJson)) :=
  type.hasParts.fieldList?_eq rfl rfl index

theorem writtenAs_toJson (type : CustomTypeDecl) : type.WrittenAs type.toJson := by
  obtain ⟨hone, hfields⟩ := type.fieldList?_toJson 2
  simp only [WrittenAs, type.hasParts.part?_eq, hfields]
  exact ⟨trivial, hone, text_inverts.finds _, findsOr_optional_text _,
    FieldDecl.read_inverts.list.findsOr _ _⟩

theorem read_inverts : read.Inverts toJson :=
  fun type => read_eq_ok_iff.mpr type.writtenAs_toJson

end CustomTypeDecl

namespace ServiceDecl

def parts (service : ServiceDecl) : List (String × Option Json) :=
  [("id", some (.int service.id.toNat)), ("name", some (.string service.name)),
    ("methods", some (.array (service.methods.map MethodDecl.toJson))),
    ("customTypes", some (.array (service.customTypes.map CustomTypeDecl.toJson)))]

theorem hasParts (service : ServiceDecl) : service.toJson.HasParts service.parts :=
  ⟨by simp [parts], rfl⟩

theorem writtenAs_toJson (service : ServiceDecl) : service.WrittenAs service.toJson := by
  simp only [WrittenAs, service.hasParts.part?_eq]
  exact ⟨trivial, byte_inverts.finds _, text_inverts.finds _,
    MethodDecl.read_inverts.list.findsOr _ _, CustomTypeDecl.read_inverts.list.findsOr _ _⟩

theorem read_inverts : read.Inverts toJson :=
  fun service => read_eq_ok_iff.mpr service.writtenAs_toJson

end ServiceDecl

end Records

section Acceptance

namespace ServiceSchema

open Schema

theorem field_acceptsWritten : field.AcceptsWritten FieldDecl.read FieldDecl.toJson := by
  intro value decl haccepts hread
  obtain ⟨-, hname, htype, -, hsince, hdoc⟩ := (field_accepts_iff value).mp haccepts
  obtain ⟨-, rname, rtype, -, rsince, rdoc⟩ := FieldDecl.read_eq_ok_iff.mp hread
  rw [field_accepts_iff]
  simp only [decl.hasParts.part?_eq]
  exact ⟨decl.hasParts.hasKeysAmong (by simp [FieldDecl.parts]),
    (text_acceptsWritten _).acceptsOne hname rname,
    (text_acceptsWritten _).acceptsOne htype rtype, acceptsPart_some.mpr rfl,
    acceptsPart_optional_text hsince rsince, acceptsPart_optional_text hdoc rdoc⟩

theorem message_acceptsWritten : message.AcceptsWritten MessageDecl.read MessageDecl.toJson := by
  intro value decl haccepts hread
  obtain ⟨-, -, hname, hfields⟩ := (message_accepts_iff value).mp haccepts
  obtain ⟨-, -, rname, rfields⟩ := MessageDecl.read_eq_ok_iff.mp hread
  obtain ⟨hone, hwritten⟩ := decl.fieldList?_toJson 1
  rw [message_accepts_iff, decl.hasParts.part?_eq, hwritten]
  exact ⟨decl.hasParts.hasKeysAmong (by simp [MessageDecl.parts]),
    hone, acceptsPart_optional_text hname rname,
    field_acceptsWritten.acceptsPart_list fields_isListOf hfields rfields⟩

theorem customType_acceptsWritten :
    customType.AcceptsWritten CustomTypeDecl.read CustomTypeDecl.toJson := by
  intro value decl haccepts hread
  obtain ⟨-, -, hname, hsince, hfields⟩ := (customType_accepts_iff value).mp haccepts
  obtain ⟨-, -, rname, rsince, rfields⟩ := CustomTypeDecl.read_eq_ok_iff.mp hread
  obtain ⟨hone, hwritten⟩ := decl.fieldList?_toJson 2
  simp only [customType_accepts_iff, decl.hasParts.part?_eq, hwritten]
  exact ⟨decl.hasParts.hasKeysAmong (by simp [CustomTypeDecl.parts]),
    hone, (text_acceptsWritten _).acceptsOne hname rname,
    acceptsPart_optional_text hsince rsince,
    field_acceptsWritten.acceptsPart_list fields_isListOf hfields rfields⟩

theorem method_acceptsWritten : method.AcceptsWritten MethodDecl.read MethodDecl.toJson := by
  intro value decl haccepts hread
  obtain ⟨-, hid, hname, hsince, hdoc, hrequest, hresponse, hevents⟩ :=
    (method_accepts_iff value).mp haccepts
  obtain ⟨-, rid, rname, rsince, rdoc, rrequest, rresponse, revents⟩ :=
    MethodDecl.read_eq_ok_iff.mp hread
  simp only [method_accepts_iff, decl.hasParts.part?_eq]
  exact ⟨decl.hasParts.hasKeysAmong (by simp [MethodDecl.parts]),
    (byte_acceptsWritten _).acceptsOne hid rid,
    (text_acceptsWritten _).acceptsOne hname rname, acceptsPart_optional_text hsince rsince,
    acceptsPart_optional_text hdoc rdoc, message_acceptsWritten.acceptsOne hrequest rrequest,
    message_acceptsWritten.acceptsOne hresponse rresponse,
    message_acceptsWritten.acceptsPart_list events_isListOf hevents revents⟩

theorem service_acceptsWritten : service.AcceptsWritten ServiceDecl.read ServiceDecl.toJson := by
  intro value decl haccepts hread
  obtain ⟨-, hid, hname, hmethods, htypes⟩ := (service_accepts_iff value).mp haccepts
  obtain ⟨-, rid, rname, rmethods, rtypes⟩ := ServiceDecl.read_eq_ok_iff.mp hread
  simp only [service_accepts_iff, decl.hasParts.part?_eq]
  exact ⟨decl.hasParts.hasKeysAmong (by simp [ServiceDecl.parts]),
    (byte_acceptsWritten _).acceptsOne hid rid,
    (text_acceptsWritten _).acceptsOne hname rname,
    method_acceptsWritten.acceptsPart_list (listOf_isListOf rfl) hmethods rmethods,
    customType_acceptsWritten.acceptsPart_list (listOf_isListOf rfl) htypes rtypes⟩

end ServiceSchema

end Acceptance

/-- Documents that are spelled differently hold the same declarations or none, and each of them is
valid in both spellings or in neither. What the declarations are written as holds them again,
wherever it is kept, and is valid if the documents were. -/
theorem normal_form_of_documents {documents respelled : List ServiceDocument}
    (h : List.Forall₂ (fun document other => RespelledService document.value other.value)
      documents respelled) :
    (∀ decls, ServiceDocument.declarations documents = .ok decls ↔
      ServiceDocument.declarations respelled = .ok decls) ∧
    List.Forall₂ (fun document other => ServiceSchema.set.violations document.value = [] ↔
      ServiceSchema.set.violations other.value = []) documents respelled ∧
    ∀ decls, ServiceDocument.declarations documents = .ok decls →
      (∀ written : List ServiceDocument, written.map (·.value) = decls.map ServiceDecl.toJson →
        ServiceDocument.declarations written = .ok decls) ∧
      List.Forall₂ (fun document decl => ServiceSchema.set.violations document.value = [] →
        ServiceSchema.set.violations (ServiceDecl.toJson decl) = []) documents decls := by
  -- paths only matter for errors
  have hdeclarations (documents : List ServiceDocument) (decls : List ServiceDecl) :
      ServiceDocument.declarations documents = .ok decls ↔
        (documents.map (·.value)).mapM ServiceDecl.read = .ok decls := by
    simp only [ServiceDocument.declarations, mapM_eq_ok_iff, List.forall₂_map_left_iff,
      declaration_eq_ok_iff]
  refine ⟨fun decls => ?_, ?_, fun decls hdecls => ⟨fun written hwritten => ?_, ?_⟩⟩
  · rw [hdeclarations, hdeclarations]
    refine ServiceDecl.readsAlike.mapM ?_ decls
    rwa [List.forall₂_map_left_iff, List.forall₂_map_right_iff]
  · refine h.imp fun document other hrespelled => ?_
    rw [ServiceSchema.violations_eq_nil_iff, ServiceSchema.violations_eq_nil_iff]
    exact ServiceSchema.service_acceptsAlike hrespelled
  · rw [hdeclarations, hwritten]
    exact ServiceDecl.read_inverts.list decls
  · refine (mapM_eq_ok_iff.mp hdecls).imp fun document decl hread hvalid => ?_
    rw [ServiceSchema.violations_eq_nil_iff] at hvalid ⊢
    exact ServiceSchema.service_acceptsWritten hvalid (declaration_eq_ok_iff.mp hread)

/-- A service whose method has its parameters under the one key or the other, with nulls or without
empty lists. -/
theorem normal_form_of_documents_params :
    let field : Json := .object [("name", .string "key"), ("type", .string "String")]
    let method (events : List (String × Json)) (key : String) (response : Json) : Json :=
      .object (events ++ [("id", .int 1), ("name", .string "put"),
        ("request", .object [(key, .array [field])]), ("response", response)])
    let document (types : List (String × Json)) (method : Json) : ServiceDocument :=
      ⟨"map.yaml", .object (types ++
        [("id", .int 7), ("methods", .array [method]), ("name", .string "map")])⟩
    let first :=
      document [("customTypes", .null)] (method [("events", .null)] "params" (.object []))
    let second := document [] (method [] "fields" (.object [("params", .array [])]))
    let decl : ServiceDecl := ⟨7, "map", [⟨1, "put", none, none,
      ⟨none, [⟨"key", "String", false, none, none⟩]⟩, ⟨none, []⟩, []⟩], []⟩
    ServiceDocument.declarations [first] = .ok [decl] ∧
      ServiceDocument.declarations [second] = .ok [decl] ∧
      ServiceDocument.declarations [⟨"map.json", decl.toJson⟩] = .ok [decl] ∧
      ServiceSchema.set.violations first.value = [] ∧
      ServiceSchema.set.violations second.value = [] ∧
      ServiceSchema.set.violations decl.toJson = [] := by
  intro field method document first second decl
  have hrequest : RespelledFields 1 (.object [("params", .array [field])])
      (.object [("fields", .array [field])]) :=
    .respelled (.inl rfl) (.inr rfl) (.of_filter rfl) (.same _)
  have hresponse : RespelledFields 1 (.object []) (.object [("params", .array [])]) :=
    .respelled (.inl rfl) (.inl rfl) (.of_filter rfl) (.empty trivial trivial)
  have hmethod : RespelledMethod (method [("events", .null)] "params" (.object []))
      (method [] "fields" (.object [("params", .array [])])) :=
    ⟨.of_filter rfl, .some hrequest, .some hresponse, .empty trivial trivial⟩
  have hservice : RespelledService first.value second.value :=
    ⟨.of_filter rfl, .items (.cons hmethod .nil), .empty trivial trivial⟩
  have hread : ServiceDocument.declarations [first] = .ok [decl] := rfl
  have hvalid : ServiceSchema.set.violations first.value = [] := by decide +kernel
  obtain ⟨hsame, hvalidity, hwritten⟩ := normal_form_of_documents (.cons hservice .nil)
  obtain ⟨hagain, haccepted⟩ := hwritten [decl] hread
  have hvalidity := (List.forall₂_cons.mp hvalidity).1
  have haccepted := (List.forall₂_cons.mp haccepted).1
  exact ⟨hread, (hsame _).mp hread, hagain _ rfl, hvalid, hvalidity.mp hvalid, haccepted hvalid⟩

end WireCodecs
