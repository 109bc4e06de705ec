import WireCodecs.Proofs.Schema.Order

/-! What a schema accepts, rule by rule. The schema of service documents has no references and no
rules for positions, so what it says about a part does not depend on where the part is. -/

namespace WireCodecs

namespace Schema

/-- Whether a schema without references finds nothing wrong with a value. -/
def Accepts (schema : Schema) (value : Json) : Prop :=
  violations (fun _ _ _ => []) schema [] value = []

/-- Members are accepted by the schemas that they have of their own. -/
def AcceptsMembers (members : List (String × Schema)) (entries : List (String × Json)) : Prop :=
  ∀ member ∈ members, ∀ value, entries.lookup member.1 = some value → member.2.Accepts value

end Schema

namespace Rule

def Accepts (rule : Rule) (value : Json) : Prop :=
  Schema.ruleViolations (fun _ _ _ => []) rule [] value = []

end Rule

namespace Schema

section Rules

/-- The same is wrong with a part as would be with the whole document. -/
theorem violations_eq_nil_iff_accepts {schema : Schema} (hfree : schema.isPositionFree false)
    (path : JsonPath) (value : Json) :
    violations (fun _ _ _ => []) schema path value = [] ↔ schema.Accepts value :=
  violations_eq_nil_iff (fun _ _ _ _ _ _ => Iff.rfl) schema hfree path [] value value (.refl value)

theorem accepts_rules_iff {list : List Rule} {value : Json} :
    (Schema.rules list).Accepts value ↔ ∀ rule ∈ list, rule.Accepts value := by
  rw [Accepts, violations]
  induction list with
  | nil => simp [ruleListViolations]
  | cons rule rest ih =>
    rw [ruleListViolations, List.append_eq_nil_iff, ih, List.forall_mem_cons, Rule.Accepts]

theorem accepts_kinds_iff {kinds : List JsonKind} {value : Json} :
    (Rule.kinds kinds).Accepts value ↔ ∃ kind ∈ kinds, kind.contains value := by
  simp [Rule.Accepts, ruleViolations]

theorem accepts_required_iff {names : List String} {entries : List (String × Json)} :
    (Rule.required names).Accepts (.object entries) ↔
      ∀ name ∈ names, ∃ value, entries.lookup name = some value := by
  simp only [Rule.Accepts, ruleViolations, missingFailures, missing, List.map_eq_nil_iff,
    List.filter_eq_nil_iff]
  refine forall₂_congr fun name _ => ?_
  cases entries.lookup name <;> simp

theorem accepts_items_iff {schema : Schema} (hfree : schema.isPositionFree false)
    {items : List Json} :
    (Rule.items schema).Accepts (.array items) ↔ ∀ item ∈ items, schema.Accepts item := by
  rw [Rule.Accepts, ruleViolations, List.flatMap_eq_nil_iff]
  conv_rhs => rw [← List.zipIdx_map_fst 0 items, List.forall_mem_map]
  exact forall₂_congr fun entry _ => violations_eq_nil_iff_accepts hfree _ entry.1

theorem accepts_maxItems_iff {count : Nat} {items : List Json} :
    (Rule.size .maxItems count).Accepts (.array items) ↔ items.length ≤ count := by
  simp [Rule.Accepts, ruleViolations, SizeBound.measure?, SizeBound.allows]

theorem accepts_not_iff {written : Json} {schema : Schema} {value : Json} :
    (Rule.not written schema).Accepts value ↔ ¬schema.Accepts value := by
  simp [Rule.Accepts, ruleViolations, Schema.Accepts]

theorem memberViolations_eq_nil_iff_accepts {members : List (String × Schema)}
    (hfree : membersArePositionFree false members) {path : JsonPath}
    {entries : List (String × Json)} :
    memberViolations (fun _ _ _ => []) members path entries = [] ↔
      AcceptsMembers members entries := by
  rw [AcceptsMembers]
  induction members with
  | nil => simp [memberViolations]
  | cons member members ih =>
    obtain ⟨name, schema⟩ := member
    rw [membersArePositionFree, Bool.and_eq_true] at hfree
    rw [memberViolations, List.append_eq_nil_iff, ih hfree.2, List.forall_mem_cons]
    refine and_congr_left fun _ => ?_
    cases entries.lookup name with
    | none => simp
    | some value => simp [violations_eq_nil_iff_accepts hfree.1]

theorem accepts_closed_iff {members : List (String × Schema)}
    (hfree : membersArePositionFree false members) {entries : List (String × Json)} :
    (Rule.closed members []).Accepts (.object entries) ↔ AcceptsMembers members entries ∧
      ∀ entry ∈ entries, entry.1 ∈ members.map (·.1) := by
  simp only [Rule.Accepts, ruleViolations, List.append_eq_nil_iff, patternViolations, and_true,
    memberViolations_eq_nil_iff_accepts hfree]
  refine and_congr_right fun _ => ?_
  simp only [isNamed, List.map_nil, List.any_nil, Bool.or_false, ite_eq_left_iff, reduceCtorEq,
    imp_false, not_not, List.isEmpty_iff]
  simp

end Rules

section Parts

variable {list : List Rule} {value : Json} {entries : List (String × Json)}

theorem Accepts.kind (h : (Schema.rules list).Accepts value) {kinds : List JsonKind}
    (hrule : .kinds kinds ∈ list) : ∃ kind ∈ kinds, kind.contains value :=
  accepts_kinds_iff.mp (accepts_rules_iff.mp h _ hrule)

theorem Accepts.exists_string (h : (Schema.rules list).Accepts value)
    (hrule : .kinds [.string] ∈ list) : ∃ text, value = .string text := by
  obtain ⟨kind, hkind, hcontains⟩ := h.kind hrule
  obtain rfl := List.mem_singleton.mp hkind
  cases value <;> simp [JsonKind.contains] at hcontains ⊢

theorem Accepts.exists_object (h : (Schema.rules list).Accepts value)
    (hrule : .kinds [.object] ∈ list) : ∃ entries, value = .object entries := by
  obtain ⟨kind, hkind, hcontains⟩ := h.kind hrule
  obtain rfl := List.mem_singleton.mp hkind
  cases value <;> simp [JsonKind.contains] at hcontains ⊢

theorem Accepts.eq_null_or_array (h : (Schema.rules list).Accepts value)
    (hrule : .kinds [.array, .null] ∈ list) : value = .null ∨ ∃ items, value = .array items := by
  obtain ⟨kind, hkind, hcontains⟩ := h.kind hrule
  simp only [List.mem_cons, List.not_mem_nil, or_false] at hkind
  rcases hkind with rfl | rfl <;> cases value <;> simp [JsonKind.contains] at hcontains ⊢

theorem Accepts.members (h : (Schema.rules list).Accepts (.object entries))
    {members : List (String × Schema)} (hrule : .closed members [] ∈ list)
    (hfree : membersArePositionFree false members) : AcceptsMembers members entries :=
  ((accepts_closed_iff hfree).mp (accepts_rules_iff.mp h _ hrule)).1

theorem Accepts.exists_required (h : (Schema.rules list).Accepts (.object entries))
    {names : List String} (hrule : .required names ∈ list) :
    ∀ name ∈ names, ∃ value, entries.lookup name = some value :=
  accepts_required_iff.mp (accepts_rules_iff.mp h _ hrule)

end Parts

end Schema

namespace ServiceSchema

section Parts

theorem violations_eq_nil_iff {value : Json} :
    set.violations value = [] ↔ service.Accepts value := by
  have hfollow : set.follow (set.maxHops value) = fun _ _ _ => [] := by
    cases set.maxHops value <;> rfl
  rw [SchemaSet.violations, hfollow]
  exact Iff.rfl

/-- A byte may be written as a floating-point number. -/
theorem cases_of_byteId {value : Json} (h : byteId.Accepts value) :
    (∃ n : Int, value = .int n ∧ 0 ≤ n ∧ n < 256) ∨ ∃ x, value = .float x := by
  have hrules := Schema.accepts_rules_iff.mp h
  cases value with
  | int n =>
    refine .inl ⟨n, rfl, ?_, ?_⟩
    · have hmin := hrules (.number .minimum (.int 0)) (by simp)
      simp [Rule.Accepts, Schema.ruleViolations, Schema.breaks, Schema.isBelow,
        Schema.ratio?] at hmin
      exact hmin
    · have hmax := hrules (.number .maximum (.int 255)) (by simp)
      simp [Rule.Accepts, Schema.ruleViolations, Schema.breaks, Schema.isBelow,
        Schema.ratio?] at hmax
      omega
  | float x => exact .inr ⟨x, rfl⟩
  | null | bool _ | string _ | array _ | object _ =>
    have hkinds := Schema.accepts_kinds_iff.mp (hrules (.kinds [.integer]) (by simp))
    obtain ⟨kind, hkind, hcontains⟩ := hkinds
    obtain rfl := List.mem_singleton.mp hkind
    simp [JsonKind.contains] at hcontains

/-- A list may be null. -/
theorem cases_of_listOf {list : List Rule} {item : Schema} (hfree : item.isPositionFree false)
    (hitems : .items item ∈ list) (hkinds : .kinds [.array, .null] ∈ list) {value : Json}
    (h : (Schema.rules list).Accepts value) :
    value = .null ∨ ∃ items, value = .array items ∧ ∀ item' ∈ items, item.Accepts item' := by
  obtain rfl | ⟨items, rfl⟩ := h.eq_null_or_array hkinds
  · exact .inl rfl
  · exact .inr ⟨items, rfl,
      (Schema.accepts_items_iff hfree).mp (Schema.accepts_rules_iff.mp h _ hitems)⟩

end Parts

end ServiceSchema

end WireCodecs
