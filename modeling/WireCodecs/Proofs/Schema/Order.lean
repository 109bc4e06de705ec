import WireCodecs.Proofs.Schema.Reordering
import WireCodecs.Schema.Service

/-! Schemas and the order of items. As long as a schema has no rule for the items at certain
positions and no fixed value with several items, whether it finds anything wrong with a value does
not depend on the order of the items of an array in the value. What it finds may: violations name
the positions. If the array is inside another one, the rule that items are different counts too. -/

namespace WireCodecs

namespace Schema

section Positions

mutual

/-- Whether a schema has no rule that depends on the order of items. -/
def isPositionFree (nested : Bool) : Schema → Bool
  | .rules list => arePositionFree nested list
  | _ => true

def arePositionFree (nested : Bool) : List Rule → Bool
  | [] => true
  | rule :: rest => ruleIsPositionFree nested rule && arePositionFree nested rest

def ruleIsPositionFree (nested : Bool) : Rule → Bool
  | .allOf schemas | .anyOf schemas | .oneOf schemas => schemasArePositionFree nested schemas
  | .condition test accepted rejected =>
    isPositionFree nested test && isPositionFree nested accepted && isPositionFree nested rejected
  | .const value => value.hasOneOrder
  | .enum values => values.all (·.hasOneOrder)
  | .dependencies members | .members members => membersArePositionFree nested members
  | .closed members patterns =>
    membersArePositionFree nested members && patternsArePositionFree nested patterns
  | .extended members patterns others =>
    membersArePositionFree nested members && patternsArePositionFree nested patterns &&
      isPositionFree nested others
  | .matching patterns => patternsArePositionFree nested patterns
  | .contains schema | .items schema | .names schema | .not _ schema => isPositionFree nested schema
  | .firstItems _ | .furtherItems _ _ => false
  | .unique => !nested
  | _ => true

def schemasArePositionFree (nested : Bool) : List Schema → Bool
  | [] => true
  | schema :: schemas => isPositionFree nested schema && schemasArePositionFree nested schemas

def membersArePositionFree (nested : Bool) : List (String × Schema) → Bool
  | [] => true
  | (_, schema) :: members => isPositionFree nested schema && membersArePositionFree nested members

def patternsArePositionFree (nested : Bool) : List (Pattern × Schema) → Bool
  | [] => true
  | (_, schema) :: patterns =>
    isPositionFree nested schema && patternsArePositionFree nested patterns

end

end Positions

section Orders

open Json (Reordered SameEntry)

variable {nested : Bool} {follow : Follow}

/-- Whether following references finds nothing wrong in both of two reordered values or in neither,
at whatever paths. -/
def Follow.IgnoresOrder (nested : Bool) (follow : Follow) : Prop :=
  ∀ name path path' value value', Reordered nested value value' →
    (follow name path value = [] ↔ follow name path' value' = [])

/-- Whether a schema finds something wrong in both of two reordered values or in neither. -/
def IgnoresOrder (nested : Bool) (follow : Follow) (schema : Schema) : Prop :=
  ∀ path path' value value', Reordered nested value value' →
    (violations follow schema path value = [] ↔ violations follow schema path' value' = [])

section Numbers

variable {value value' : Json} (h : Reordered nested value value')
include h

theorem ratio?_of_reordered : ratio? value = ratio? value' := by
  cases h.aligned <;> rfl

theorem decimal?_of_reordered : decimal? value = decimal? value' := by
  cases h.aligned <;> rfl

theorem breaks_of_reordered (bound : NumberBound) (limit : Json) :
    breaks bound limit value = breaks bound limit value' := by
  have hnumber : value.isNumber = value'.isNumber := by
    cases h.aligned <;> rfl
  cases bound <;> simp only [breaks, isBelow, ratio?_of_reordered h, hnumber]

theorem measure?_of_reordered (bound : SizeBound) :
    bound.measure? value = bound.measure? value' := by
  cases h.aligned with
  | array hitems hperm =>
    cases bound <;> simp [SizeBound.measure?, hitems.length_eq, hperm.length_eq]
  | object hentries => cases bound <;> simp [SizeBound.measure?, hentries.length_eq]
  | _ => rfl

theorem contains_of_reordered (kind : JsonKind) : kind.contains value = kind.contains value' := by
  cases h.aligned <;> cases kind <;> rfl

end Numbers

section Parts

variable {schema : Schema} (h : IgnoresOrder nested follow schema)
include h

theorem IgnoresOrder.isEmpty_eq (path path' : JsonPath) {value value' : Json}
    (hvalue : Reordered nested value value') :
    (violations follow schema path value).isEmpty =
      (violations follow schema path' value').isEmpty := by
  rw [Bool.eq_iff_iff, List.isEmpty_iff, List.isEmpty_iff, h path path' value value' hvalue]

/-- A schema that all of some items must be of. -/
theorem IgnoresOrder.items (path path' : JsonPath) {items middle items' : List Json}
    (hitems : List.Forall₂ (Reordered nested) items middle) (hperm : middle.Perm items') :
    ruleViolations follow (.items schema) path (.array items) = [] ↔
      ruleViolations follow (.items schema) path' (.array items') = [] := by
  -- The paths of the items name their positions, but nothing depends on paths.
  have heach (path : JsonPath) (items : List Json) :
      ruleViolations follow (.items schema) path (.array items) = [] ↔
        ∀ item ∈ items, violations follow schema [] item = [] := by
    rw [ruleViolations, List.flatMap_eq_nil_iff]
    conv_rhs => rw [← List.zipIdx_map_fst 0 items, List.forall_mem_map]
    exact forall₂_congr fun entry _ => h _ _ _ _ (.refl _)
  rw [heach, heach, Json.forall_mem_iff_of_forall₂ hitems fun item item' => h [] [] item item']
  simp only [hperm.mem_iff]

/-- A schema that one of some items must be of. -/
theorem IgnoresOrder.any_eq (path path' : JsonPath) {items middle items' : List Json}
    (hitems : List.Forall₂ (Reordered nested) items middle) (hperm : middle.Perm items') :
    (items.any fun item => (violations follow schema path item).isEmpty) =
      items'.any fun item => (violations follow schema path' item).isEmpty := by
  rw [← hperm.any_eq]
  clear hperm
  induction hitems with
  | nil => rfl
  | cons hitem _ ih => rw [List.any_cons, List.any_cons, h.isEmpty_eq path path' hitem, ih]

/-- A schema that all members with certain names must be of. -/
theorem IgnoresOrder.filtered {entries entries' : List (String × Json)}
    (hentries : List.Forall₂ (SameEntry nested) entries entries') (p : String → Bool)
    (path path' : JsonPath) :
    ((entries.filter fun entry => p entry.1).flatMap fun (name, value) =>
        violations follow schema (path ++ [name]) value) = [] ↔
      ((entries'.filter fun entry => p entry.1).flatMap fun (name, value) =>
        violations follow schema (path' ++ [name]) value) = [] := by
  simp only [List.flatMap_eq_nil_iff, List.mem_filter, and_imp]
  refine Json.forall_mem_iff_of_forall₂ hentries ?_
  rintro ⟨name, value⟩ ⟨_, value'⟩ ⟨rfl, hvalue⟩
  exact imp_congr_right fun _ => h _ _ value value' hvalue

end Parts

theorem missing_of_sameEntry {entries entries' : List (String × Json)}
    (h : List.Forall₂ (SameEntry nested) entries entries') (names : List String) :
    missing names entries = missing names entries' := by
  refine List.filter_congr fun name _ => ?_
  rcases Json.lookup_sameEntry h name with ⟨hnone, hnone'⟩ | ⟨_, _, hsome, hsome', -⟩
  · rw [hnone, hnone']
  · rw [hsome, hsome']
    rfl

mutual

theorem violations_eq_nil_iff (hfollow : follow.IgnoresOrder nested) :
    (schema : Schema) → isPositionFree nested schema → IgnoresOrder nested follow schema
  | .always, _, _, _, _, _, _ => by simp [violations]
  | .never name, _, _, _, _, _, _ => by simp [violations]
  | .reference name, _, path, path', value, value', h => hfollow name path path' value value' h
  | .rules list, hfree, path, path', value, value', h => by
    rw [violations, violations]
    exact ruleListViolations_eq_nil_iff hfollow list hfree path path' value value' h

theorem ruleListViolations_eq_nil_iff (hfollow : follow.IgnoresOrder nested) :
    (list : List Rule) → arePositionFree nested list → ∀ path path' value value',
      Reordered nested value value' → (ruleListViolations follow list path value = [] ↔
        ruleListViolations follow list path' value' = [])
  | [], _, _, _, _, _, _ => by simp [ruleListViolations]
  | rule :: rest, hfree, path, path', value, value', h => by
    rw [arePositionFree, Bool.and_eq_true] at hfree
    simp only [ruleListViolations, List.append_eq_nil_iff,
      ruleViolations_eq_nil_iff hfollow rule hfree.1 path path' value value' h,
      ruleListViolations_eq_nil_iff hfollow rest hfree.2 path path' value value' h]

theorem ruleViolations_eq_nil_iff (hfollow : follow.IgnoresOrder nested) :
    (rule : Rule) → ruleIsPositionFree nested rule → ∀ path path' value value',
      Reordered nested value value' →
      (ruleViolations follow rule path value = [] ↔ ruleViolations follow rule path' value' = [])
  | .allOf schemas, hfree, path, path', value, value', h => by
    simp only [ruleViolations]
    exact allViolations_eq_nil_iff hfollow schemas hfree path path' value value' h
  | .anyOf schemas, hfree, path, path', value, value', h => by
    simp only [ruleViolations, acceptingCount_eq hfollow schemas hfree path path' value value' h,
      ite_eq_right_iff, reduceCtorEq, imp_false]
  | .condition test accepted rejected, hfree, path, path', value, value', h => by
    simp only [ruleIsPositionFree, Bool.and_eq_true] at hfree
    obtain ⟨⟨htest, haccepted⟩, hrejected⟩ := hfree
    simp only [ruleViolations,
      (violations_eq_nil_iff hfollow test htest).isEmpty_eq path path' h]
    split
    · exact violations_eq_nil_iff hfollow accepted haccepted path path' value value' h
    · exact violations_eq_nil_iff hfollow rejected hrejected path path' value value' h
  | .const expected, hfree, path, path', value, value', h => by
    simp only [ruleViolations, Json.equals_of_reordered expected hfree value value' h]
    split <;> simp
  | .contains schema, hfree, path, path', _, _, h => by
    cases h.aligned with
    | array hitems hperm =>
      simp only [ruleViolations,
        (violations_eq_nil_iff hfollow schema hfree).any_eq path path' hitems hperm]
      split <;> simp
    | _ => simp [ruleViolations]
  | .dependencies members, hfree, path, path', _, _, h => by
    cases h.aligned with
    | object hentries =>
      exact dependencyViolations_eq_nil_iff hfollow members hfree path path' _ _ hentries h
    | _ => simp [ruleViolations]
  | .enum values, hfree, path, path', value, value', h => by
    have hany : values.any value.equals = values.any value'.equals := by
      rw [Bool.eq_iff_iff, List.any_eq_true, List.any_eq_true]
      refine exists_congr fun expected => and_congr_right fun hmem => ?_
      rw [Json.equals_of_reordered expected (List.all_eq_true.mp hfree expected hmem) value value'
        h]
    simp only [ruleViolations, hany]
    split <;> simp
  | .noMembers, _, path, path', _, _, h => by
    cases h.aligned with
    | object hentries => cases hentries <;> simp [ruleViolations]
    | _ => simp [ruleViolations]
  | .closed members patterns, hfree, path, path', _, _, h => by
    rw [ruleIsPositionFree, Bool.and_eq_true] at hfree
    cases h.aligned with
    | @object entries entries' hentries =>
      simp only [ruleViolations, List.append_eq_nil_iff, Json.map_fst_eq_of_sameEntry hentries,
        memberViolations_eq_nil_iff hfollow members hfree.1 path path' _ _ hentries,
        patternViolations_eq_nil_iff hfollow patterns hfree.2 path path' _ _ hentries]
      split <;> simp
    | _ => simp [ruleViolations]
  | .extended members patterns others, hfree, path, path', _, _, h => by
    simp only [ruleIsPositionFree, Bool.and_eq_true] at hfree
    obtain ⟨⟨hmembers, hpatterns⟩, hothers⟩ := hfree
    cases h.aligned with
    | object hentries =>
      simp only [ruleViolations, List.append_eq_nil_iff,
        memberViolations_eq_nil_iff hfollow members hmembers path path' _ _ hentries,
        patternViolations_eq_nil_iff hfollow patterns hpatterns path path' _ _ hentries]
      exact and_congr_right fun _ => (violations_eq_nil_iff hfollow others hothers).filtered
        hentries (fun name => !isNamed members patterns name) path path'
    | _ => simp [ruleViolations]
  | .items schema, hfree, path, path', _, _, h => by
    cases h.aligned with
    | array hitems hperm =>
      exact (violations_eq_nil_iff hfollow schema hfree).items path path' hitems hperm
    | _ => simp [ruleViolations]
  | .firstItems _, hfree, _, _, _, _, _ | .furtherItems _ _, hfree, _, _, _, _, _ => by
    simp [ruleIsPositionFree] at hfree
  | .noFurtherItems count, _, path, path', _, _, h => by
    cases h.aligned with
    | array hitems hperm =>
      simp only [ruleViolations, hitems.length_eq, hperm.length_eq]
      split <;> simp
    | _ => simp [ruleViolations]
  | .matching patterns, hfree, path, path', _, _, h => by
    cases h.aligned with
    | object hentries =>
      exact patternViolations_eq_nil_iff hfollow patterns hfree path path' _ _ hentries
    | _ => simp [ruleViolations]
  | .members members, hfree, path, path', _, _, h => by
    cases h.aligned with
    | object hentries =>
      exact memberViolations_eq_nil_iff hfollow members hfree path path' _ _ hentries
    | _ => simp [ruleViolations]
  | .multipleOf divisor, _, path, path', value, value', h => by
    simp only [ruleViolations, decimal?_of_reordered h]
    split
    · split <;> simp
    · simp
  | .names schema, hfree, path, path', _, _, h => by
    cases h.aligned with
    | object hentries =>
      simp only [ruleViolations, List.flatMap_eq_nil_iff, List.map_eq_nil_iff]
      refine Json.forall_mem_iff_of_forall₂ hentries ?_
      rintro ⟨name, value⟩ ⟨_, value'⟩ ⟨rfl, -⟩
      exact violations_eq_nil_iff hfollow schema hfree _ _ _ _ (.refl _)
    | _ => simp [ruleViolations]
  | .noNames, _, path, path', _, _, h => by
    cases h.aligned with
    | object hentries => cases hentries <;> simp [ruleViolations]
    | _ => simp [ruleViolations]
  | .not written schema, hfree, path, path', value, value', h => by
    have hschema := violations_eq_nil_iff hfollow schema hfree path path' value value' h
    simp only [ruleViolations, ite_eq_right_iff, reduceCtorEq, imp_false, List.isEmpty_iff, hschema]
  | .number bound limit, _, path, path', value, value', h => by
    simp only [ruleViolations, breaks_of_reordered h]
    split <;> simp
  | .oneOf schemas, hfree, path, path', value, value', h => by
    simp only [ruleViolations, acceptingCount_eq hfollow schemas hfree path path' value value' h]
    split <;> simp
  | .pattern written pattern, _, path, path', _, _, h => by
    cases h.aligned <;> simp [ruleViolations]
  | .required names, _, path, path', _, _, h | .requiredWith _ names, _, path, path', _, _, h => by
    cases h.aligned with
    | object hentries =>
      simp only [ruleViolations, missingFailures, List.map_eq_nil_iff,
        missing_of_sameEntry hentries names]
    | _ => simp [ruleViolations]
  | .size bound count, _, path, path', value, value', h => by
    simp only [ruleViolations, measure?_of_reordered h]
    split <;> simp
  | .text form fits, _, path, path', _, _, h => by
    cases h.aligned <;> simp [ruleViolations]
  | .unique, hfree, path, path', _, _, h => by
    have hflat : nested = false := by simpa [ruleIsPositionFree] using hfree
    cases h.aligned with
    | array hitems hperm hsame =>
      simp only [ruleViolations, ← hsame hflat, Json.areDistinct_of_perm hperm]
      split <;> simp
    | _ => simp [ruleViolations]
  | .kinds kinds, _, path, path', _, _, h => by
    simp only [ruleViolations, contains_of_reordered h]
    split <;> simp

theorem allViolations_eq_nil_iff (hfollow : follow.IgnoresOrder nested) :
    (schemas : List Schema) → schemasArePositionFree nested schemas → ∀ path path' value value',
      Reordered nested value value' → (allViolations follow schemas path value = [] ↔
        allViolations follow schemas path' value' = [])
  | [], _, _, _, _, _, _ => by simp [allViolations]
  | schema :: schemas, hfree, path, path', value, value', h => by
    rw [schemasArePositionFree, Bool.and_eq_true] at hfree
    simp only [allViolations, List.append_eq_nil_iff,
      violations_eq_nil_iff hfollow schema hfree.1 path path' value value' h,
      allViolations_eq_nil_iff hfollow schemas hfree.2 path path' value value' h]

theorem acceptingCount_eq (hfollow : follow.IgnoresOrder nested) :
    (schemas : List Schema) → schemasArePositionFree nested schemas → ∀ path path' value value',
      Reordered nested value value' →
      acceptingCount follow schemas path value = acceptingCount follow schemas path' value'
  | [], _, _, _, _, _, _ => rfl
  | schema :: schemas, hfree, path, path', value, value', h => by
    rw [schemasArePositionFree, Bool.and_eq_true] at hfree
    rw [acceptingCount, acceptingCount,
      (violations_eq_nil_iff hfollow schema hfree.1).isEmpty_eq path path' h,
      acceptingCount_eq hfollow schemas hfree.2 path path' value value' h]

theorem memberViolations_eq_nil_iff (hfollow : follow.IgnoresOrder nested) :
    (members : List (String × Schema)) → membersArePositionFree nested members →
      ∀ path path' entries entries', List.Forall₂ (SameEntry nested) entries entries' →
      (memberViolations follow members path entries = [] ↔
        memberViolations follow members path' entries' = [])
  | [], _, _, _, _, _, _ => by simp [memberViolations]
  | (name, schema) :: members, hfree, path, path', entries, entries', h => by
    rw [membersArePositionFree, Bool.and_eq_true] at hfree
    rw [memberViolations, memberViolations, List.append_eq_nil_iff, List.append_eq_nil_iff,
      memberViolations_eq_nil_iff hfollow members hfree.2 path path' entries entries' h]
    refine and_congr_left fun _ => ?_
    rcases Json.lookup_sameEntry h name with
      ⟨hnone, hnone'⟩ | ⟨value, value', hsome, hsome', hvalue⟩
    · simp [hnone, hnone']
    · simp only [hsome, hsome']
      exact violations_eq_nil_iff hfollow schema hfree.1 _ _ value value' hvalue

theorem patternViolations_eq_nil_iff (hfollow : follow.IgnoresOrder nested) :
    (patterns : List (Pattern × Schema)) → patternsArePositionFree nested patterns →
      ∀ path path' entries entries', List.Forall₂ (SameEntry nested) entries entries' →
      (patternViolations follow patterns path entries = [] ↔
        patternViolations follow patterns path' entries' = [])
  | [], _, _, _, _, _, _ => by simp [patternViolations]
  | (pattern, schema) :: patterns, hfree, path, path', entries, entries', h => by
    rw [patternsArePositionFree, Bool.and_eq_true] at hfree
    rw [patternViolations, patternViolations, List.append_eq_nil_iff, List.append_eq_nil_iff,
      patternViolations_eq_nil_iff hfollow patterns hfree.2 path path' entries entries' h]
    exact and_congr_left fun _ =>
      (violations_eq_nil_iff hfollow schema hfree.1).filtered h pattern.fits path path'

theorem dependencyViolations_eq_nil_iff (hfollow : follow.IgnoresOrder nested) :
    (members : List (String × Schema)) → membersArePositionFree nested members →
      ∀ path path' entries entries', List.Forall₂ (SameEntry nested) entries entries' →
      Reordered nested (.object entries) (.object entries') →
      (dependencyViolations follow members path entries = [] ↔
        dependencyViolations follow members path' entries' = [])
  | [], _, _, _, _, _, _, _ => by simp [dependencyViolations]
  | (name, schema) :: members, hfree, path, path', entries, entries', h, hobject => by
    rw [membersArePositionFree, Bool.and_eq_true] at hfree
    rw [dependencyViolations, dependencyViolations, List.append_eq_nil_iff,
      List.append_eq_nil_iff,
      dependencyViolations_eq_nil_iff hfollow members hfree.2 path path' entries entries' h hobject]
    refine and_congr_left fun _ => ?_
    rcases Json.lookup_sameEntry h name with ⟨hnone, hnone'⟩ | ⟨_, _, hsome, hsome', -⟩
    · simp [hnone, hnone']
    · simp only [hsome, hsome', Option.isSome_some, if_true]
      exact violations_eq_nil_iff hfollow schema hfree.1 path path' _ _ hobject

end

end Orders

end Schema

namespace SchemaSet

open Json (Reordered)

variable {nested : Bool} {set : SchemaSet}

/-- Whether no schema of the set has a rule that depends on the order of items. -/
def IsPositionFree (nested : Bool) (set : SchemaSet) : Prop :=
  set.root.isPositionFree nested ∧ ∀ target ∈ set.targets, target.2.isPositionFree nested

theorem ignoresOrder_follow (hfree : set.IsPositionFree nested) (hops : Nat) :
    (set.follow hops).IgnoresOrder nested := by
  induction hops with
  | zero => exact fun _ _ _ _ _ _ => Iff.rfl
  | succ hops ih =>
    intro name path path' value value' h
    simp only [follow]
    cases hlookup : set.targets.lookup name with
    | none => exact Iff.rfl
    | some schema =>
      obtain ⟨before, after, htargets, -⟩ := List.lookup_eq_some_iff.mp hlookup
      have hschema : schema.isPositionFree nested := hfree.2 (name, schema) (by simp [htargets])
      exact Schema.violations_eq_nil_iff ih schema hschema path path' value value' h

/-- Two values that differ by the order of items are both valid or both not. -/
theorem violations_eq_nil_iff (hfree : set.IsPositionFree nested) {value value' : Json}
    (h : Reordered nested value value') :
    set.violations value = [] ↔ set.violations value' = [] := by
  rw [violations, violations, maxHops, maxHops, h.depth_eq]
  exact Schema.violations_eq_nil_iff (ignoresOrder_follow hfree _) set.root hfree.1 [] [] value
    value' h

/-- The schema of service documents has no such rule. -/
theorem isPositionFree_serviceSchema (nested : Bool) : ServiceSchema.set.IsPositionFree nested := by
  refine ⟨?_, by simp [ServiceSchema.set]⟩
  revert nested
  decide +kernel

end SchemaSet

end WireCodecs
