import WireCodecs.Proofs.Schema.Acceptance
import WireCodecs.Proofs.Service.Written

/-! What the schema of service documents asks of each record, part by part. A record is an object
without other keys than its own; a part that is required is there and accepted, and any other part
is accepted where it is there. -/

namespace WireCodecs

/-- The value is an object, and its keys are among the given ones. -/
def Json.HasKeysAmong (keys : List String) : Json → Prop
  | .object entries => ∀ key ∉ keys, entries.lookup key = none
  | _ => False

namespace Schema

section Parts

/-- A part is accepted where it is there. -/
def AcceptsPart (schema : Schema) (part : Option Json) : Prop :=
  ∀ value, part = some value → schema.Accepts value

/-- A part is there and accepted. -/
def AcceptsOne (schema : Schema) (part : Option Json) : Prop :=
  ∃ value, part = some value ∧ schema.Accepts value

variable {schema : Schema} {part : Option Json}

theorem acceptsPart_none : schema.AcceptsPart none := by simp [AcceptsPart]

theorem acceptsPart_some {value : Json} :
    schema.AcceptsPart (some value) ↔ schema.Accepts value := by
  simp [AcceptsPart]

theorem acceptsOne_some {value : Json} :
    schema.AcceptsOne (some value) ↔ schema.Accepts value := by
  simp [AcceptsOne]

theorem acceptsOne_iff :
    schema.AcceptsOne part ↔ (∃ value, part = some value) ∧ schema.AcceptsPart part := by
  cases part <;> simp [AcceptsOne, AcceptsPart]

end Parts

section Objects

theorem forall_mem_keys_iff {keys : List String} {entries : List (String × Json)} :
    (∀ entry ∈ entries, entry.1 ∈ keys) ↔ ∀ key ∉ keys, entries.lookup key = none := by
  simp only [List.lookup_eq_none_iff, bne_iff_ne, ne_eq]
  constructor
  · rintro h key hkey entry hentry rfl
    exact hkey (h entry hentry)
  · intro h entry hentry
    by_contra hkey
    exact h entry.1 hkey entry hentry rfl

/-- A closed rule is about each of its members, and about no others being there. -/
theorem accepts_closed_keys_iff {members : List (String × Schema)}
    (hfree : membersArePositionFree false members) {entries : List (String × Json)} :
    (Rule.closed members []).Accepts (.object entries) ↔
      (∀ member ∈ members, member.2.AcceptsPart (entries.lookup member.1)) ∧
        (Json.object entries).HasKeysAmong (members.map (·.1)) := by
  rw [accepts_closed_iff hfree, forall_mem_keys_iff]
  exact Iff.rfl

theorem accepts_objectKind (entries : List (String × Json)) :
    (Rule.kinds [.object]).Accepts (.object entries) := accepts_kinds_iff.mpr ⟨_, .head _, rfl⟩

/-- A schema of objects is described by what it asks of an object. -/
theorem accepts_iff_of_objects {list : List Rule} (hkind : .kinds [.object] ∈ list)
    {keys : List String} {P : Json → Prop}
    (h : ∀ entries, (Schema.rules list).Accepts (.object entries) ↔
      (Json.object entries).HasKeysAmong keys ∧ P (.object entries)) (value : Json) :
    (Schema.rules list).Accepts value ↔ value.HasKeysAmong keys ∧ P value := by
  cases value with
  | object entries => exact h entries
  | null | bool _ | int _ | float _ | string _ | array _ =>
    refine iff_of_false (fun haccepts => ?_) (fun hkeys => hkeys.1)
    obtain ⟨entries, hobject⟩ := haccepts.exists_object hkind
    cases hobject

end Objects

section Lists

/-- A list of accepted items whose number is allowed; null stands for the empty list. -/
def AcceptsItems (item : Schema) (allowed : Nat → Prop) : Json → Prop
  | .null => True
  | .array items => allowed items.length ∧ ∀ value ∈ items, item.Accepts value
  | _ => False

/-- A schema accepts lists of accepted items, the empty one among them. -/
structure IsListOf (schema item : Schema) (allowed : Nat → Prop) : Prop where
  nil : allowed 0
  accepts_iff (value : Json) : schema.Accepts value ↔ AcceptsItems item allowed value

/-- A schema is one of lists if that is what its rules say of arrays, and null is the only other
kind. -/
theorem isListOf_of_arrays {list : List Rule} (hkinds : .kinds [.array, .null] ∈ list)
    {item : Schema} {allowed : Nat → Prop} (hnil : allowed 0)
    (hnull : (Schema.rules list).Accepts .null)
    (harray : ∀ items, (Schema.rules list).Accepts (.array items) ↔
      AcceptsItems item allowed (.array items)) : (Schema.rules list).IsListOf item allowed := by
  refine ⟨hnil, fun value => ?_⟩
  cases value with
  | null => exact iff_of_true hnull trivial
  | array items => exact harray items
  | bool _ | int _ | float _ | string _ | object _ =>
    refine iff_of_false (fun haccepts => ?_) (fun hitems => hitems)
    obtain hnull | ⟨items, harray⟩ := haccepts.eq_null_or_array hkinds
    · cases hnull
    · cases harray

end Lists

end Schema

namespace ServiceSchema

open Schema

theorem field_accepts_iff (value : Json) : field.Accepts value ↔
    value.HasKeysAmong ["doc", "name", "nullable", "since", "type"] ∧
    identifier.AcceptsOne (value.part? "name" 0) ∧
    identifier.AcceptsOne (value.part? "type" 1) ∧
    AcceptsPart (.rules [.kinds [.boolean]]) (value.part? "nullable" 2) ∧
    version.AcceptsPart (value.part? "since" 3) ∧
    text.AcceptsPart (value.part? "doc" 4) := by
  rw [field]
  revert value
  refine accepts_iff_of_objects (by simp) fun entries => ?_
  rw [accepts_rules_iff, List.forall_mem_cons, accepts_closed_keys_iff rfl]
  simp only [List.forall_mem_cons, List.not_mem_nil, false_implies, implies_true, and_true,
    acceptsOne_iff, accepts_required_iff, accepts_objectKind, Json.part?, List.map_cons,
    List.map_nil]
  tauto

/-- The field list is accepted under the key that it is under. -/
theorem acceptsPart_fieldList_iff (entries : List (String × Json)) (index : Nat)
    (hone : (Json.object entries).HasOneFieldList) :
    fields.AcceptsPart ((Json.object entries).fieldList? index) ↔
      fields.AcceptsPart (entries.lookup "fields") ∧
        fields.AcceptsPart (entries.lookup "params") := by
  rcases hone with hfields | hparams
  · simp [Json.fieldList?, hfields, acceptsPart_none]
  · simp [Json.fieldList?, hparams, acceptsPart_none]

theorem accepts_oneFieldList_iff {entries : List (String × Json)} :
    oneFieldList.Accepts (.object entries) ↔ (Json.object entries).HasOneFieldList := by
  rw [oneFieldList, accepts_not_iff, accepts_rules_iff, Json.HasOneFieldList]
  simp only [List.forall_mem_cons, List.not_mem_nil, false_implies, implies_true, and_true,
    accepts_required_iff, ← Option.ne_none_iff_exists', ne_eq]
  tauto

theorem message_accepts_iff (value : Json) : message.Accepts value ↔
    value.HasKeysAmong ["fields", "name", "params"] ∧
    value.HasOneFieldList ∧
    identifier.AcceptsPart (value.part? "name" 0) ∧
    fields.AcceptsPart (value.fieldList? 1) := by
  rw [message]
  revert value
  refine accepts_iff_of_objects (by simp) fun entries => ?_
  have hlist := acceptsPart_fieldList_iff entries 1
  rw [accepts_rules_iff, List.forall_mem_cons, accepts_closed_keys_iff rfl]
  simp only [List.forall_mem_cons, List.not_mem_nil, false_implies, implies_true, and_true,
    accepts_oneFieldList_iff, accepts_objectKind, Json.part?, List.map_cons, List.map_nil]
  tauto

theorem customType_accepts_iff (value : Json) : customType.Accepts value ↔
    value.HasKeysAmong ["fields", "name", "params", "since"] ∧
    value.HasOneFieldList ∧
    identifier.AcceptsOne (value.part? "name" 0) ∧
    version.AcceptsPart (value.part? "since" 1) ∧
    fields.AcceptsPart (value.fieldList? 2) := by
  rw [customType]
  revert value
  refine accepts_iff_of_objects (by simp) fun entries => ?_
  have hlist := acceptsPart_fieldList_iff entries 2
  rw [accepts_rules_iff, List.forall_mem_cons, accepts_closed_keys_iff rfl]
  simp only [List.forall_mem_cons, List.not_mem_nil, false_implies, implies_true, and_true,
    accepts_oneFieldList_iff, acceptsOne_iff, accepts_required_iff, accepts_objectKind, Json.part?,
    List.map_cons, List.map_nil]
  tauto

theorem method_accepts_iff (value : Json) : method.Accepts value ↔
    value.HasKeysAmong ["doc", "events", "id", "name", "request", "response", "since"] ∧
    byteId.AcceptsOne (value.part? "id" 0) ∧
    identifier.AcceptsOne (value.part? "name" 1) ∧
    version.AcceptsPart (value.part? "since" 2) ∧
    text.AcceptsPart (value.part? "doc" 3) ∧
    message.AcceptsOne (value.part? "request" 4) ∧
    message.AcceptsOne (value.part? "response" 5) ∧
    AcceptsPart (.rules [.items message, .size .maxItems 254, .kinds [.array, .null]])
      (value.part? "events" 6) := by
  rw [method]
  revert value
  refine accepts_iff_of_objects (by simp) fun entries => ?_
  rw [accepts_rules_iff, List.forall_mem_cons, accepts_closed_keys_iff rfl]
  simp only [List.forall_mem_cons, List.not_mem_nil, false_implies, implies_true, and_true,
    acceptsOne_iff, accepts_required_iff, accepts_objectKind, Json.part?, List.map_cons,
    List.map_nil]
  tauto

theorem service_accepts_iff (value : Json) : service.Accepts value ↔
    value.HasKeysAmong ["customTypes", "id", "methods", "name"] ∧
    byteId.AcceptsOne (value.part? "id" 0) ∧
    identifier.AcceptsOne (value.part? "name" 1) ∧
    (listOf method).AcceptsPart (value.part? "methods" 2) ∧
    (listOf customType).AcceptsPart (value.part? "customTypes" 3) := by
  rw [service]
  revert value
  refine accepts_iff_of_objects (by simp) fun entries => ?_
  rw [accepts_rules_iff, List.forall_mem_cons, accepts_closed_keys_iff rfl]
  simp only [List.forall_mem_cons, List.not_mem_nil, false_implies, implies_true, and_true,
    acceptsOne_iff, accepts_required_iff, accepts_objectKind, Json.part?, List.map_cons,
    List.map_nil]
  tauto

section Lists

theorem accepts_listKinds (items : List Json) :
    (Rule.kinds [.array, .null]).Accepts (.array items) :=
  accepts_kinds_iff.mpr ⟨_, .head _, rfl⟩

theorem listOf_isListOf {item : Schema} (hfree : item.isPositionFree false) :
    (listOf item).IsListOf item fun _ => True := by
  refine isListOf_of_arrays (by simp) trivial rfl fun items => ?_
  simp [accepts_rules_iff, accepts_items_iff hfree, accepts_listKinds, AcceptsItems]

theorem events_isListOf :
    IsListOf (.rules [.items message, .size .maxItems 254, .kinds [.array, .null]])
    message (· ≤ 254) := by
  have hfree : message.isPositionFree false := rfl
  refine isListOf_of_arrays (by simp) (Nat.zero_le 254) rfl fun items => ?_
  rw [accepts_rules_iff, AcceptsItems, and_comm]
  simp [accepts_items_iff hfree, accepts_maxItems_iff, accepts_listKinds]

end Lists

end ServiceSchema

end WireCodecs
