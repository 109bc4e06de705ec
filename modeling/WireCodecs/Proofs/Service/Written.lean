import WireCodecs.Service.Document
import WireCodecs.Proofs.Outcome

/-! What a document has to hold to be read as a given declaration. A record is written as an object
or as an array, and a part of it is found under its key or at its index; beyond that the two forms
are read alike. For each kind of record there is one "iff" that says, part by part, which values are
read as it. -/

namespace WireCodecs

namespace Json

/-- The part of a record under `key` of an object or at `index` of an array. -/
def part? (key : String) (index : Nat) : Json → Option Json
  | object entries => entries.lookup key
  | array items => items[index]?
  | _ => none

/-- Whether a value has the form of a record with `size` parts. -/
def IsRecord (size : Nat) : Json → Prop
  | object _ => True
  | array items => items.length ≤ size
  | _ => False

/-- The field list of a record, which an object has under either of two keys. -/
def fieldList? (index : Nat) : Json → Option Json
  | object entries => (entries.lookup "fields").or (entries.lookup "params")
  | array items => items[index]?
  | _ => none

/-- The field list is not under both keys. -/
def HasOneFieldList : Json → Prop
  | object entries => entries.lookup "fields" = none ∨ entries.lookup "params" = none
  | _ => True

end Json

namespace Reader

section Parts

variable {α β : Type} {reader : Reader α} {entries : List (String × Json)} {items : List Json}

/-- What is found of a part: nothing if it is not there, or else what the reader makes of it. -/
def Finds (reader : Reader α) : Option Json → Option α → Prop
  | none, found => found = none
  | some value, found => ∃ a, reader value = .ok a ∧ some a = found

/-- What is made of a part that has a default. -/
def FindsOr (default : α) (reader : Reader α) : Option Json → α → Prop
  | none, a => a = default
  | some value, a => reader value = .ok a

theorem entryAt?_eq_ok_iff {key : String} {found : Option α} :
    entryAt? entries key reader = .ok found ↔ Finds reader (entries.lookup key) found := by
  rw [entryAt?]
  cases entries.lookup key with
  | none => simp [Finds, eq_comm]
  | some value => exact map_eq_ok_iff

theorem part?_eq_ok_iff {index : Nat} {found : Option α} :
    part? items index reader = .ok found ↔ Finds reader items[index]? found := by
  rw [part?]
  cases items[index]? with
  | none => simp [Finds, eq_comm]
  | some value => exact map_eq_ok_iff

theorem required_eq_ok_iff {name : String} {found : Option α} {a : α} :
    required name found = .ok a ↔ found = some a := by
  cases found <;> simp [required]

theorem requiredPart_eq_ok_iff {record : Expected} {index : Nat} {a : α} :
    requiredPart record index items reader = .ok a ↔ Finds reader items[index]? (some a) := by
  rw [requiredPart, bind_eq_ok_iff]
  simp only [part?_eq_ok_iff]
  constructor
  · rintro ⟨found, hfound, ha⟩
    cases found with
    | none => cases ha
    | some a' =>
      obtain rfl := pure_eq_ok_iff.mp ha
      exact hfound
  · intro h
    exact ⟨some a, h, rfl⟩

theorem noFurtherParts_eq_ok_iff {size : Nat} {result a : α} :
    noFurtherParts items size result = .ok a ↔ items.length ≤ size ∧ result = a := by
  rw [noFurtherParts]
  split <;> simp <;> omega

/-- A part that may be left out is read with a default. -/
theorem findsOr_iff {default : α} {value : Option Json} {a : α} :
    FindsOr default reader value a ↔
      ∃ found, Finds reader value found ∧ found.getD default = a := by
  cases value with
  | none => simp [FindsOr, Finds, eq_comm]
  | some value => simp [FindsOr, Finds]

theorem join_eq_getD (found : Option (Option α)) : found.join = found.getD none := by
  cases found <;> rfl

/-- The field list is read from the one key that it is under. -/
theorem readFieldList_eq_ok_iff {reader : Reader (List FieldDecl)}
    {between : Except DocumentError β} (index : Nat) {fields : List FieldDecl} {middle : β} :
    readFieldList entries reader between = .ok (fields, middle) ↔
      between = .ok middle ∧ (Json.object entries).HasOneFieldList ∧
        FindsOr [] reader ((Json.object entries).fieldList? index) fields := by
  simp only [readFieldList, bind_eq_ok_iff, entryAt?_eq_ok_iff, Json.HasOneFieldList,
    Json.fieldList?]
  cases entries.lookup "fields" with
  | none =>
    cases entries.lookup "params" with
    | none =>
      simp [Finds, FindsOr, pure_eq_ok_iff]
    | some params => simp [Finds, FindsOr, map_eq_ok_iff]
  | some value =>
    cases entries.lookup "params" with
    | none =>
      simp [Finds, FindsOr, pure_eq_ok_iff]
      tauto
    | some params => simp [Finds]

end Parts

end Reader

open Reader

namespace FieldDecl

/-- Which values a field is read from. -/
def WrittenAs (field : FieldDecl) (value : Json) : Prop :=
  value.IsRecord 5 ∧
  Finds text (value.part? "name" 0) (some field.name) ∧
  Finds text (value.part? "type" 1) (some field.typeName) ∧
  FindsOr false boolean (value.part? "nullable" 2) field.nullable ∧
  FindsOr none (optional text) (value.part? "since" 3) field.since ∧
  FindsOr none (optional text) (value.part? "doc" 4) field.doc

theorem read_eq_ok_iff {value : Json} {field : FieldDecl} :
    read value = .ok field ↔ field.WrittenAs value := by
  simp only [WrittenAs, findsOr_iff]
  cases value with
  | object entries =>
    -- entries are read in the order of their keys, and only then what is required is asked for
    simp only [read, ofEntries, bind_eq_ok_iff, pure_eq_ok_iff, entryAt?_eq_ok_iff,
      required_eq_ok_iff, join_eq_getD, Json.IsRecord, Json.part?]
    constructor
    · rintro ⟨doc, hdoc, _, hname, nullable, hnullable, since, hsince, _, htype, name, rfl, type,
        rfl, rfl⟩
      exact ⟨trivial, hname, htype, ⟨_, hnullable, rfl⟩, ⟨_, hsince, rfl⟩, _, hdoc, rfl⟩
    · rintro ⟨-, hname, htype, ⟨nullable, hnullable, hn⟩, ⟨since, hsince, hs⟩, doc, hdoc, hd⟩
      exact ⟨doc, hdoc, _, hname, nullable, hnullable, since, hsince, _, htype, _, rfl, _, rfl,
        by rw [hn, hs, hd]⟩
  | array items =>
    simp only [read, ofParts, bind_eq_ok_iff, part?_eq_ok_iff, requiredPart_eq_ok_iff,
      noFurtherParts_eq_ok_iff, join_eq_getD, Json.IsRecord, Json.part?]
    constructor
    · rintro ⟨name, hname, type, htype, nullable, hnullable, since, hsince, doc, hdoc, hsize, rfl⟩
      exact ⟨hsize, hname, htype, ⟨_, hnullable, rfl⟩, ⟨_, hsince, rfl⟩, _, hdoc, rfl⟩
    · rintro ⟨hsize, hname, htype, ⟨nullable, hnullable, hn⟩, ⟨since, hsince, hs⟩, doc, hdoc, hd⟩
      exact ⟨_, hname, _, htype, nullable, hnullable, since, hsince, doc, hdoc, hsize,
        by rw [hn, hs, hd]⟩
  | null | bool _ | int _ | float _ | string _ => simp [read, Json.IsRecord]

end FieldDecl

namespace MessageDecl

/-- Which values a message is read from. -/
def WrittenAs (message : MessageDecl) (value : Json) : Prop :=
  value.IsRecord 2 ∧
  value.HasOneFieldList ∧
  FindsOr none (optional text) (value.part? "name" 0) message.name ∧
  FindsOr [] (list FieldDecl.read) (value.fieldList? 1) message.fields

theorem read_eq_ok_iff {value : Json} {message : MessageDecl} :
    read value = .ok message ↔ message.WrittenAs value := by
  cases value with
  | object entries =>
    simp only [WrittenAs, read, ofEntries, bind_eq_ok_iff, pure_eq_ok_iff, Prod.exists,
      readFieldList_eq_ok_iff 1, entryAt?_eq_ok_iff, join_eq_getD, Json.IsRecord, Json.part?]
    rw [findsOr_iff]
    constructor
    · rintro ⟨fields, name, ⟨hname, hone, hfields⟩, rfl⟩
      exact ⟨trivial, hone, ⟨_, hname, rfl⟩, hfields⟩
    · rintro ⟨-, hone, ⟨name, hname, hn⟩, hfields⟩
      exact ⟨_, name, ⟨hname, hone, hfields⟩, by rw [hn]⟩
  | array items =>
    simp only [WrittenAs, read, ofParts, bind_eq_ok_iff, part?_eq_ok_iff, noFurtherParts_eq_ok_iff,
      join_eq_getD, Json.IsRecord, Json.HasOneFieldList, Json.part?, Json.fieldList?, findsOr_iff]
    constructor
    · rintro ⟨name, hname, fields, hfields, hsize, rfl⟩
      exact ⟨hsize, trivial, ⟨_, hname, rfl⟩, _, hfields, rfl⟩
    · rintro ⟨hsize, -, ⟨name, hname, hn⟩, fields, hfields, hf⟩
      exact ⟨name, hname, fields, hfields, hsize, by rw [hn, hf]⟩
  | null | bool _ | int _ | float _ | string _ => simp [read, WrittenAs, Json.IsRecord]

end MessageDecl

namespace MethodDecl

/-- Which values a method is read from. -/
def WrittenAs (method : MethodDecl) (value : Json) : Prop :=
  value.IsRecord 7 ∧
  Finds byte (value.part? "id" 0) (some method.id) ∧
  Finds text (value.part? "name" 1) (some method.name) ∧
  FindsOr none (optional text) (value.part? "since" 2) method.since ∧
  FindsOr none (optional text) (value.part? "doc" 3) method.doc ∧
  Finds MessageDecl.read (value.part? "request" 4) (some method.request) ∧
  Finds MessageDecl.read (value.part? "response" 5) (some method.response) ∧
  FindsOr [] (list MessageDecl.read) (value.part? "events" 6) method.events

theorem read_eq_ok_iff {value : Json} {method : MethodDecl} :
    read value = .ok method ↔ method.WrittenAs value := by
  simp only [WrittenAs, findsOr_iff]
  cases value with
  | object entries =>
    simp only [read, ofEntries, bind_eq_ok_iff, pure_eq_ok_iff, entryAt?_eq_ok_iff,
      required_eq_ok_iff, join_eq_getD, Json.IsRecord, Json.part?]
    constructor
    · rintro ⟨doc, hdoc, events, hevents, _, hid, _, hname, _, hrequest, _, hresponse, since,
        hsince, id, rfl, name, rfl, request, rfl, response, rfl, rfl⟩
      exact ⟨trivial, hid, hname, ⟨_, hsince, rfl⟩, ⟨_, hdoc, rfl⟩, hrequest, hresponse, _,
        hevents, rfl⟩
    · rintro ⟨-, hid, hname, ⟨since, hsince, hs⟩, ⟨doc, hdoc, hd⟩, hrequest, hresponse, events,
        hevents, he⟩
      exact ⟨doc, hdoc, events, hevents, _, hid, _, hname, _, hrequest, _, hresponse, since,
        hsince, _, rfl, _, rfl, _, rfl, _, rfl, by rw [hs, hd, he]⟩
  | array items =>
    simp only [read, ofParts, bind_eq_ok_iff, part?_eq_ok_iff, requiredPart_eq_ok_iff,
      noFurtherParts_eq_ok_iff, join_eq_getD, Json.IsRecord, Json.part?]
    constructor
    · rintro ⟨id, hid, name, hname, since, hsince, doc, hdoc, request, hrequest, response,
        hresponse, events, hevents, hsize, rfl⟩
      exact ⟨hsize, hid, hname, ⟨_, hsince, rfl⟩, ⟨_, hdoc, rfl⟩, hrequest, hresponse, _, hevents,
        rfl⟩
    · rintro ⟨hsize, hid, hname, ⟨since, hsince, hs⟩, ⟨doc, hdoc, hd⟩, hrequest, hresponse, events,
        hevents, he⟩
      exact ⟨_, hid, _, hname, since, hsince, doc, hdoc, _, hrequest, _, hresponse, events, hevents,
        hsize, by rw [hs, hd, he]⟩
  | null | bool _ | int _ | float _ | string _ => simp [read, Json.IsRecord]

end MethodDecl

namespace CustomTypeDecl

/-- Which values a custom type is read from. -/
def WrittenAs (type : CustomTypeDecl) (value : Json) : Prop :=
  value.IsRecord 3 ∧
  value.HasOneFieldList ∧
  Finds text (value.part? "name" 0) (some type.name) ∧
  FindsOr none (optional text) (value.part? "since" 1) type.since ∧
  FindsOr [] (list FieldDecl.read) (value.fieldList? 2) type.fields

theorem read_eq_ok_iff {value : Json} {type : CustomTypeDecl} :
    read value = .ok type ↔ type.WrittenAs value := by
  cases value with
  | object entries =>
    simp only [WrittenAs, read, ofEntries, bind_eq_ok_iff, pure_eq_ok_iff, Prod.exists,
      readFieldList_eq_ok_iff 2, entryAt?_eq_ok_iff, required_eq_ok_iff, join_eq_getD,
      Json.IsRecord, Json.part?]
    rw [findsOr_iff]
    constructor
    · rintro ⟨fields, _, ⟨hname, hone, hfields⟩, since, hsince, name, rfl, rfl⟩
      exact ⟨trivial, hone, hname, ⟨_, hsince, rfl⟩, hfields⟩
    · rintro ⟨-, hone, hname, ⟨since, hsince, hs⟩, hfields⟩
      exact ⟨_, _, ⟨hname, hone, hfields⟩, since, hsince, _, rfl, by rw [hs]⟩
  | array items =>
    simp only [WrittenAs, read, ofParts, bind_eq_ok_iff, part?_eq_ok_iff, requiredPart_eq_ok_iff,
      noFurtherParts_eq_ok_iff, join_eq_getD, Json.IsRecord, Json.HasOneFieldList, Json.part?,
      Json.fieldList?, findsOr_iff]
    constructor
    · rintro ⟨name, hname, since, hsince, fields, hfields, hsize, rfl⟩
      exact ⟨hsize, trivial, hname, ⟨_, hsince, rfl⟩, _, hfields, rfl⟩
    · rintro ⟨hsize, -, hname, ⟨since, hsince, hs⟩, fields, hfields, hf⟩
      exact ⟨_, hname, since, hsince, fields, hfields, hsize, by rw [hs, hf]⟩
  | null | bool _ | int _ | float _ | string _ => simp [read, WrittenAs, Json.IsRecord]

end CustomTypeDecl

namespace ServiceDecl

/-- Which values a service is read from. -/
def WrittenAs (service : ServiceDecl) (value : Json) : Prop :=
  value.IsRecord 4 ∧
  Finds byte (value.part? "id" 0) (some service.id) ∧
  Finds text (value.part? "name" 1) (some service.name) ∧
  FindsOr [] (list MethodDecl.read) (value.part? "methods" 2) service.methods ∧
  FindsOr [] (list CustomTypeDecl.read) (value.part? "customTypes" 3) service.customTypes

theorem read_eq_ok_iff {value : Json} {service : ServiceDecl} :
    read value = .ok service ↔ service.WrittenAs value := by
  simp only [WrittenAs, findsOr_iff]
  cases value with
  | object entries =>
    simp only [read, ofEntries, bind_eq_ok_iff, pure_eq_ok_iff, entryAt?_eq_ok_iff,
      required_eq_ok_iff, Json.IsRecord, Json.part?]
    constructor
    · rintro ⟨types, htypes, _, hid, methods, hmethods, _, hname, id, rfl, name, rfl, rfl⟩
      exact ⟨trivial, hid, hname, ⟨_, hmethods, rfl⟩, _, htypes, rfl⟩
    · rintro ⟨-, hid, hname, ⟨methods, hmethods, hm⟩, types, htypes, ht⟩
      exact ⟨types, htypes, _, hid, methods, hmethods, _, hname, _, rfl, _, rfl, by rw [hm, ht]⟩
  | array items =>
    simp only [read, ofParts, bind_eq_ok_iff, part?_eq_ok_iff, requiredPart_eq_ok_iff,
      noFurtherParts_eq_ok_iff, Json.IsRecord, Json.part?]
    constructor
    · rintro ⟨id, hid, name, hname, methods, hmethods, types, htypes, hsize, rfl⟩
      exact ⟨hsize, hid, hname, ⟨_, hmethods, rfl⟩, _, htypes, rfl⟩
    · rintro ⟨hsize, hid, hname, ⟨methods, hmethods, hm⟩, types, htypes, ht⟩
      exact ⟨_, hid, _, hname, methods, hmethods, types, htypes, hsize, by rw [hm, ht]⟩
  | null | bool _ | int _ | float _ | string _ => simp [read, Json.IsRecord]

end ServiceDecl

end WireCodecs
