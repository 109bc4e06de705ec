import WireCodecs.Proofs.Service.Accepted

/-! Documents that are spelled differently and say the same. The field list of a message or custom
type may be under either of its keys, and a list without items may be left out or be null. Readers
find the same declaration in two such documents or fail on both, and the schema accepts both or
neither. Each kind of record has its own relation between spellings, from the innermost outwards. -/

namespace WireCodecs

namespace Json

section Parts

/-- A list without items: it is left out, null or empty. -/
def IsEmptyList : Option Json → Prop
  | none | some .null | some (.array []) => True
  | _ => False

/-- The same value, except that parts of a record under one of the keys or at one of the indexes may
differ. -/
inductive AgreeBeyond (keys : List String) (indexes : List Nat) : Json → Json → Prop
  | same (value : Json) : AgreeBeyond keys indexes value value
  | object {entries others : List (String × Json)}
    (h : ∀ key ∉ keys, entries.lookup key = others.lookup key) :
    AgreeBeyond keys indexes (.object entries) (.object others)
  | array {items others : List Json} (h : ∀ index ∉ indexes, items[index]? = others[index]?) :
    AgreeBeyond keys indexes (.array items) (.array others)

namespace AgreeBeyond

variable {keys : List String} {indexes : List Nat} {value other : Json}

theorem part?_eq (h : AgreeBeyond keys indexes value other) {key : String} (hkey : key ∉ keys)
    {index : Nat} (hindex : index ∉ indexes) : value.part? key index = other.part? key index := by
  cases h with
  | same => rfl
  | object h => exact h key hkey
  | array h => exact h index hindex

theorem isRecord_iff (h : AgreeBeyond keys indexes value other) {size : Nat}
    (hsize : size ∉ indexes) : value.IsRecord size ↔ other.IsRecord size := by
  cases h with
  | same => rfl
  | object h => rfl
  | array h => simp only [IsRecord, ← List.getElem?_eq_none_iff, h size hsize]

theorem hasKeysAmong_iff (h : AgreeBeyond keys indexes value other) {known : List String}
    (hknown : keys ⊆ known) : value.HasKeysAmong known ↔ other.HasKeysAmong known := by
  cases h with
  | same => rfl
  | object h =>
    refine forall₂_congr fun key hkey => ?_
    rw [h key fun hmem => hkey (hknown hmem)]
  | array h => rfl

/-- Two objects agree if the same entries are left of them without those keys. -/
theorem of_filter {entries others : List (String × Json)}
    (h : entries.filter (fun entry => !keys.contains entry.1) =
      others.filter (fun entry => !keys.contains entry.1)) :
    AgreeBeyond keys indexes (.object entries) (.object others) := by
  have hlookup (entries : List (String × Json)) {key : String} (hkey : key ∉ keys) :
      (entries.filter (fun entry => !keys.contains entry.1)).lookup key = entries.lookup key := by
    induction entries with
    | nil => rfl
    | cons entry rest ih => grind
  refine .object fun key hkey => ?_
  rw [← hlookup entries hkey, h, hlookup others hkey]

end AgreeBeyond

/-- Two lists that are both empty, or have related items. -/
inductive RespelledList (R : Json → Json → Prop) : Option Json → Option Json → Prop
  | same (part : Option Json) : RespelledList R part part
  | empty {part other : Option Json} (hpart : IsEmptyList part) (hother : IsEmptyList other) :
    RespelledList R part other
  | items {items others : List Json} (h : List.Forall₂ R items others) :
    RespelledList R (some (.array items)) (some (.array others))

end Parts

section Records

/-- A message or custom type and another spelling of it. The field list is at the given index of a
record written as an array; it is never under both keys of an object. -/
inductive RespelledFields (index : Nat) : Json → Json → Prop
  | same (value : Json) : RespelledFields index value value
  | respelled {value other : Json} (hvalue : value.HasOneFieldList) (hother : other.HasOneFieldList)
    (hrest : AgreeBeyond ["fields", "params"] [index] value other)
    (hfields : RespelledList Eq (value.fieldList? index) (other.fieldList? index)) :
    RespelledFields index value other

/-- A method and another spelling of it. -/
structure RespelledMethod (value other : Json) : Prop where
  rest : AgreeBeyond ["request", "response", "events"] [4, 5, 6] value other
  request : Option.Rel (RespelledFields 1) (value.part? "request" 4) (other.part? "request" 4)
  response : Option.Rel (RespelledFields 1) (value.part? "response" 5) (other.part? "response" 5)
  events : RespelledList (RespelledFields 1) (value.part? "events" 6) (other.part? "events" 6)

/-- A service and another spelling of it. -/
structure RespelledService (value other : Json) : Prop where
  rest : AgreeBeyond ["methods", "customTypes"] [2, 3] value other
  methods : RespelledList RespelledMethod (value.part? "methods" 2) (other.part? "methods" 2)
  customTypes : RespelledList (RespelledFields 2) (value.part? "customTypes" 3)
    (other.part? "customTypes" 3)

end Records

end Json

open Json

section Reading

namespace Reader

variable {α : Type} {reader : Reader α} {R : Json → Json → Prop} {part other : Option Json}

/-- The reader makes the same of related values, or fails on both. -/
def ReadsAlike (reader : Reader α) (R : Json → Json → Prop) : Prop :=
  ∀ ⦃value other⦄, R value other → ∀ a, reader value = .ok a ↔ reader other = .ok a

theorem readsAlike_eq : reader.ReadsAlike Eq := by
  rintro value _ rfl a
  rfl

theorem ReadsAlike.finds (h : reader.ReadsAlike R) (hpart : Option.Rel R part other)
    (found : Option α) : Finds reader part found ↔ Finds reader other found := by
  cases hpart with
  | none => rfl
  | some hvalue => exact exists_congr fun a => and_congr_left' (h hvalue a)

theorem ReadsAlike.mapM (h : reader.ReadsAlike R) {items others : List Json}
    (hitems : List.Forall₂ R items others) (as : List α) :
    items.mapM reader = .ok as ↔ others.mapM reader = .ok as := by
  simp only [mapM_eq_ok_iff]
  induction hitems generalizing as with
  | nil => rfl
  | cons hitem _ ih => simp only [List.forall₂_cons_left_iff, h hitem, ih]

theorem findsOr_list_of_isEmptyList (h : IsEmptyList part) (as : List α) :
    FindsOr [] (list reader) part as ↔ as = [] := by
  match part, h with
  | none, _ => rfl
  | some .null, _ => simp [FindsOr, list, eq_comm]
  | some (.array []), _ => simp [FindsOr, list, pure_eq_ok_iff]

theorem ReadsAlike.findsOr_list (h : reader.ReadsAlike R) (hpart : RespelledList R part other)
    (as : List α) : FindsOr [] (list reader) part as ↔ FindsOr [] (list reader) other as := by
  cases hpart with
  | same => rfl
  | empty hpart hother =>
    rw [findsOr_list_of_isEmptyList hpart, findsOr_list_of_isEmptyList hother]
  | items hitems => exact h.mapM hitems as

end Reader

open Reader

theorem MessageDecl.readsAlike : read.ReadsAlike (RespelledFields 1) := by
  intro value other h message
  rw [read_eq_ok_iff, read_eq_ok_iff]
  cases h with
  | same => rfl
  | respelled hvalue hother hrest hfields =>
    rw [WrittenAs, WrittenAs, hrest.isRecord_iff (by simp), readsAlike_eq.findsOr_list hfields,
      iff_of_true hvalue hother]
    simp (disch := simp) only [hrest.part?_eq]

theorem CustomTypeDecl.readsAlike : read.ReadsAlike (RespelledFields 2) := by
  intro value other h type
  rw [read_eq_ok_iff, read_eq_ok_iff]
  cases h with
  | same => rfl
  | respelled hvalue hother hrest hfields =>
    rw [WrittenAs, WrittenAs, hrest.isRecord_iff (by simp), readsAlike_eq.findsOr_list hfields,
      iff_of_true hvalue hother]
    simp (disch := simp) only [hrest.part?_eq]

theorem MethodDecl.readsAlike : read.ReadsAlike RespelledMethod := by
  intro value other h method
  rw [read_eq_ok_iff, read_eq_ok_iff, WrittenAs, WrittenAs, h.rest.isRecord_iff (by simp),
    MessageDecl.readsAlike.finds h.request, MessageDecl.readsAlike.finds h.response,
    MessageDecl.readsAlike.findsOr_list h.events]
  simp (disch := simp) only [h.rest.part?_eq]

theorem ServiceDecl.readsAlike : read.ReadsAlike RespelledService := by
  intro value other h service
  rw [read_eq_ok_iff, read_eq_ok_iff, WrittenAs, WrittenAs, h.rest.isRecord_iff (by simp),
    MethodDecl.readsAlike.findsOr_list h.methods,
    CustomTypeDecl.readsAlike.findsOr_list h.customTypes]
  simp (disch := simp) only [h.rest.part?_eq]

end Reading

section Acceptance

namespace Schema

variable {schema item : Schema} {R : Json → Json → Prop} {part other : Option Json}

/-- The schema accepts both of two related values or neither. -/
def AcceptsAlike (schema : Schema) (R : Json → Json → Prop) : Prop :=
  ∀ ⦃value other⦄, R value other → (schema.Accepts value ↔ schema.Accepts other)

theorem acceptsAlike_eq : schema.AcceptsAlike Eq := by
  rintro value _ rfl
  rfl

theorem AcceptsAlike.acceptsOne (h : schema.AcceptsAlike R) (hpart : Option.Rel R part other) :
    schema.AcceptsOne part ↔ schema.AcceptsOne other := by
  cases hpart with
  | none => rfl
  | some hvalue => rw [acceptsOne_some, acceptsOne_some, h hvalue]

theorem IsListOf.acceptsPart_of_isEmptyList {allowed : Nat → Prop}
    (hlist : schema.IsListOf item allowed) (h : IsEmptyList part) : schema.AcceptsPart part := by
  match part, h with
  | none, _ => exact acceptsPart_none
  | some .null, _ => exact acceptsPart_some.mpr ((hlist.accepts_iff _).mpr trivial)
  | some (.array []), _ =>
    exact acceptsPart_some.mpr ((hlist.accepts_iff _).mpr ⟨hlist.nil, by simp⟩)

theorem AcceptsAlike.acceptsPart_list (h : item.AcceptsAlike R) {allowed : Nat → Prop}
    (hlist : schema.IsListOf item allowed) (hpart : RespelledList R part other) :
    schema.AcceptsPart part ↔ schema.AcceptsPart other := by
  cases hpart with
  | same => rfl
  | empty hpart hother =>
    exact iff_of_true (hlist.acceptsPart_of_isEmptyList hpart)
      (hlist.acceptsPart_of_isEmptyList hother)
  | items hitems =>
    -- the lists are of one length, so none of them is too long alone
    rw [acceptsPart_some, acceptsPart_some, hlist.accepts_iff, hlist.accepts_iff, AcceptsItems,
      AcceptsItems, hitems.length_eq, forall_mem_iff_of_forall₂ hitems fun _ _ hR => h hR]

end Schema

namespace ServiceSchema

open Schema

theorem fields_isListOf : fields.IsListOf field fun _ => True := listOf_isListOf rfl

theorem message_acceptsAlike : message.AcceptsAlike (RespelledFields 1) := by
  intro value other h
  cases h with
  | same => rfl
  | respelled hvalue hother hrest hfields =>
    rw [message_accepts_iff, message_accepts_iff, hrest.hasKeysAmong_iff (by simp),
      acceptsAlike_eq.acceptsPart_list fields_isListOf hfields, iff_of_true hvalue hother]
    simp (disch := simp) only [hrest.part?_eq]

theorem customType_acceptsAlike : customType.AcceptsAlike (RespelledFields 2) := by
  intro value other h
  cases h with
  | same => rfl
  | respelled hvalue hother hrest hfields =>
    rw [customType_accepts_iff, customType_accepts_iff, hrest.hasKeysAmong_iff (by simp),
      acceptsAlike_eq.acceptsPart_list fields_isListOf hfields, iff_of_true hvalue hother]
    simp (disch := simp) only [hrest.part?_eq]

theorem method_acceptsAlike : method.AcceptsAlike RespelledMethod := by
  intro value other h
  rw [method_accepts_iff, method_accepts_iff, h.rest.hasKeysAmong_iff (by simp),
    message_acceptsAlike.acceptsOne h.request, message_acceptsAlike.acceptsOne h.response,
    message_acceptsAlike.acceptsPart_list events_isListOf h.events]
  simp (disch := simp) only [h.rest.part?_eq]

theorem service_acceptsAlike : service.AcceptsAlike RespelledService := by
  intro value other h
  rw [service_accepts_iff, service_accepts_iff, h.rest.hasKeysAmong_iff (by simp),
    method_acceptsAlike.acceptsPart_list (listOf_isListOf rfl) h.methods,
    customType_acceptsAlike.acceptsPart_list (listOf_isListOf rfl) h.customTypes]
  simp (disch := simp) only [h.rest.part?_eq]

end ServiceSchema

end Acceptance

end WireCodecs
