import Mathlib.Data.List.Forall2
import Mathlib.Data.Nat.Basic
import Mathlib.Order.Basic
import WireCodecs.Schema.Violation

/-! Values with their items in another order. Two values that differ by the order of the items of
one array have the same kinds, numbers, sizes and names of members, and both equal a third one or
neither, unless that one has several items in an array. -/

namespace WireCodecs

namespace Json

/-- Two values that differ at most by the order of the items of one array in them, which is in no
other array unless `nested` is set. -/
inductive Reordered (nested : Bool) : Json → Json → Prop
  | refl (value : Json) : Reordered nested value value
  | items {items items' : List Json} (h : items.Perm items') :
    Reordered nested (.array items) (.array items')
  | item {before after : List Json} {value value' : Json} (hnested : nested = true)
    (h : Reordered nested value value') :
    Reordered nested (.array (before ++ value :: after)) (.array (before ++ value' :: after))
  | entry {before after : List (String × Json)} {name : String} {value value' : Json}
    (h : Reordered nested value value') :
    Reordered nested (.object (before ++ (name, value) :: after))
      (.object (before ++ (name, value') :: after))

variable {nested : Bool}

/-- Entries with one key and values that differ at most by an order. -/
def SameEntry (nested : Bool) (entry entry' : String × Json) : Prop :=
  entry.1 = entry'.1 ∧ Reordered nested entry.2 entry'.2

section Reordered

theorem forall₂_refl {α : Type} {R : α → α → Prop} (hrefl : ∀ a, R a a) (items : List α) :
    List.Forall₂ R items items :=
  List.forall₂_same.mpr fun a _ => hrefl a

theorem forall₂_of_middle {α : Type} {R : α → α → Prop} (hrefl : ∀ a, R a a) {a a' : α} (h : R a a')
    (before after : List α) : List.Forall₂ R (before ++ a :: after) (before ++ a' :: after) :=
  List.rel_append (forall₂_refl hrefl before) (.cons h (forall₂_refl hrefl after))

theorem SameEntry.refl (entry : String × Json) : SameEntry nested entry entry := ⟨rfl, .refl _⟩

/-- What two reordered values look like: the same but for the order of the items of an array and for
what their parts differ in. -/
inductive Aligned (nested : Bool) : Json → Json → Prop
  | null : Aligned nested .null .null
  | bool (value : Bool) : Aligned nested (.bool value) (.bool value)
  | int (value : Int) : Aligned nested (.int value) (.int value)
  | float (value : Binary64) : Aligned nested (.float value) (.float value)
  | string (text : String) : Aligned nested (.string text) (.string text)
  | array {items middle items' : List Json} (h : List.Forall₂ (Reordered nested) items middle)
    (hperm : middle.Perm items') (hsame : nested = false → middle = items) :
    Aligned nested (.array items) (.array items')
  | object {entries entries' : List (String × Json)}
    (h : List.Forall₂ (SameEntry nested) entries entries') :
    Aligned nested (.object entries) (.object entries')

theorem Reordered.aligned {value value' : Json} (h : Reordered nested value value') :
    Aligned nested value value' := by
  cases h with
  | refl =>
    cases value with
    | null => exact .null
    | bool value => exact .bool value
    | int value => exact .int value
    | float value => exact .float value
    | string text => exact .string text
    | array parts => exact .array (forall₂_refl .refl parts) (.refl _) fun _ => rfl
    | object entries => exact .object (forall₂_refl .refl entries)
  | items hperm => exact .array (forall₂_refl .refl _) hperm fun _ => rfl
  | item hnested h =>
    exact .array (forall₂_of_middle .refl h _ _) (.refl _) fun hflat =>
      Bool.noConfusion (hnested.symm.trans hflat)
  | entry h => exact .object (forall₂_of_middle .refl ⟨rfl, h⟩ _ _)

end Reordered

/-- All of some items have a property if all that are in a relation with them have one. -/
theorem forall_mem_iff_of_forall₂ {α β : Type} {R : α → β → Prop} {P : α → Prop} {Q : β → Prop}
    {xs : List α} {ys : List β} (h : List.Forall₂ R xs ys) (hPQ : ∀ x y, R x y → (P x ↔ Q y)) :
    (∀ x ∈ xs, P x) ↔ ∀ y ∈ ys, Q y := by
  induction h with
  | nil => simp
  | cons hxy _ ih => rw [List.forall_mem_cons, List.forall_mem_cons, hPQ _ _ hxy, ih]

section Depth

theorem itemsDepth_le_iff {items : List Json} {bound : Nat} :
    itemsDepth items ≤ bound ↔ ∀ item ∈ items, item.depth ≤ bound := by
  induction items with
  | nil => simp [itemsDepth]
  | cons item items ih => rw [itemsDepth, Nat.max_le, ih, List.forall_mem_cons]

theorem entriesDepth_le_iff {entries : List (String × Json)} {bound : Nat} :
    entriesDepth entries ≤ bound ↔ ∀ entry ∈ entries, entry.2.depth ≤ bound := by
  induction entries with
  | nil => simp [entriesDepth]
  | cons entry entries ih => rw [entriesDepth, Nat.max_le, ih, List.forall_mem_cons]

/-- How deep a value is nested does not depend on the order of items. -/
theorem Reordered.depth_eq {value value' : Json} (h : Reordered nested value value') :
    value.depth = value'.depth := by
  induction h with
  | refl => rfl
  | items hperm =>
    refine congrArg (· + 1) (eq_of_forall_ge_iff fun bound => ?_)
    simp only [itemsDepth_le_iff, hperm.mem_iff]
  | item _ _ ih =>
    refine congrArg (· + 1) (eq_of_forall_ge_iff fun bound => ?_)
    simp only [itemsDepth_le_iff, List.forall_mem_append, List.forall_mem_cons, ih]
  | entry _ ih =>
    refine congrArg (· + 1) (eq_of_forall_ge_iff fun bound => ?_)
    simp only [entriesDepth_le_iff, List.forall_mem_append, List.forall_mem_cons, ih]

end Depth

section Members

theorem map_fst_eq_of_sameEntry {entries entries' : List (String × Json)}
    (h : List.Forall₂ (SameEntry nested) entries entries') :
    entries.map (·.1) = entries'.map (·.1) := by
  induction h with
  | nil => rfl
  | cons hentry _ ih => rw [List.map_cons, List.map_cons, hentry.1, ih]

theorem lookup_sameEntry {entries entries' : List (String × Json)}
    (h : List.Forall₂ (SameEntry nested) entries entries') (name : String) :
    (entries.lookup name = none ∧ entries'.lookup name = none) ∨
      ∃ value value', entries.lookup name = some value ∧ entries'.lookup name = some value' ∧
        Reordered nested value value' := by
  induction h with
  | nil => exact .inl ⟨rfl, rfl⟩
  | @cons entry entry' _ _ hentry _ ih =>
    obtain ⟨key, value⟩ := entry
    obtain ⟨key', value'⟩ := entry'
    obtain ⟨rfl, hvalue⟩ := hentry
    by_cases hname : name = key
    · exact .inr ⟨value, value', by simp [hname], by simp [hname], hvalue⟩
    · have hb : (name == key) = false := beq_eq_false_iff_ne.mpr hname
      simpa only [List.lookup_cons, hb] using ih

end Members

section Equality

mutual

theorem equals_comm : (value other : Json) → value.equals other = other.equals value
  | .null, other | .bool _, other | .string _, other | .int _, other | .float _, other => by
    cases other <;> simp [equals, Schema.isSameNumber, Schema.ratio?, eq_comm, Bool.beq_comm]
  | .array items, other => by
    cases other <;> simp [equals, Schema.isSameNumber, Schema.ratio?, itemsEqual_comm items]
  | .object entries, other => by
    cases other <;> simp [equals, Schema.isSameNumber, Schema.ratio?, entriesEqual_comm entries]

theorem itemsEqual_comm : (items others : List Json) →
    itemsEqual items others = itemsEqual others items
  | [], others => by cases others <;> rfl
  | item :: items, others => by
    cases others with
    | nil => rfl
    | cons other others => rw [itemsEqual, itemsEqual, equals_comm item, itemsEqual_comm items]

theorem entriesEqual_comm : (entries others : List (String × Json)) →
    entriesEqual entries others = entriesEqual others entries
  | [], others => by cases others <;> rfl
  | (key, value) :: entries, others => by
    cases others with
    | nil => rfl
    | cons other others =>
      obtain ⟨key', found⟩ := other
      rw [entriesEqual, entriesEqual, equals_comm value, entriesEqual_comm entries, Bool.beq_comm]

end

theorem areDistinct_iff {items : List Json} :
    areDistinct items ↔ items.Pairwise fun item other => ¬ item.equals other := by
  induction items with
  | nil => simp [areDistinct]
  | cons item items ih => simp [areDistinct, ih]

/-- Whether items are different does not depend on their order. -/
theorem areDistinct_of_perm {items items' : List Json} (h : items.Perm items') :
    areDistinct items = areDistinct items' := by
  rw [Bool.eq_iff_iff, areDistinct_iff, areDistinct_iff]
  exact h.pairwise_iff fun hne => by rwa [equals_comm]

mutual

/-- Whether no array in a value has several items. -/
def hasOneOrder : Json → Bool
  | .array [] => true
  | .array [item] => hasOneOrder item
  | .array _ => false
  | .object entries => entriesHaveOneOrder entries
  | _ => true

def entriesHaveOneOrder : List (String × Json) → Bool
  | [] => true
  | (_, value) :: entries => hasOneOrder value && entriesHaveOneOrder entries

end

mutual

/-- A value without an order of its own equals both of two reordered values or neither. -/
theorem equals_of_reordered : (expected : Json) → hasOneOrder expected → ∀ value value',
    Reordered nested value value' → value.equals expected = value'.equals expected
  | .null, _, _, _, h | .bool _, _, _, _, h | .string _, _, _, _, h | .int _, _, _, _, h
  | .float _, _, _, _, h => by
    cases h.aligned <;> simp [equals, Schema.isSameNumber, Schema.ratio?]
  | .array [], _, _, _, h => by
    cases h.aligned with
    | @array items middle items' hitems hperm _ =>
      have hlength := hitems.length_eq.trans hperm.length_eq
      cases items <;> cases items' <;> simp_all [equals, itemsEqual]
    | _ => simp [equals, Schema.isSameNumber, Schema.ratio?]
  | .array [other], hone, _, _, h => by
    cases h.aligned with
    | @array items middle items' hitems hperm _ =>
      have hlength := hitems.length_eq.trans hperm.length_eq
      -- With one item there is one order.
      match items, items', hlength with
      | [], [], _ => rfl
      | [item], [item'], _ =>
        obtain rfl := List.perm_singleton.mp hperm
        obtain ⟨hitem, -⟩ := List.forall₂_cons.mp hitems
        simp only [equals, itemsEqual, Bool.and_true]
        exact equals_of_reordered other hone item item' hitem
      | _ :: _ :: _, _ :: _ :: _, _ => simp [equals, itemsEqual]
    | _ => simp [equals, Schema.isSameNumber, Schema.ratio?]
  | .array (_ :: _ :: _), hone, _, _, _ => by simp [hasOneOrder] at hone
  | .object others, hone, _, _, h => by
    cases h.aligned with
    | object hentries => exact entriesEqual_of_reordered others hone _ _ hentries
    | _ => simp [equals, Schema.isSameNumber, Schema.ratio?]

theorem entriesEqual_of_reordered : (others : List (String × Json)) → entriesHaveOneOrder others →
    ∀ entries entries', List.Forall₂ (SameEntry nested) entries entries' →
      entriesEqual entries others = entriesEqual entries' others
  | [], _, _, _, h => by cases h <;> rfl
  | (key, expected) :: others, hone, _, _, h => by
    rw [entriesHaveOneOrder, Bool.and_eq_true] at hone
    cases h with
    | nil => rfl
    | @cons entry entry' entries entries' hentry hrest =>
      obtain ⟨name, value⟩ := entry
      obtain ⟨name', value'⟩ := entry'
      obtain ⟨rfl, hvalue⟩ := hentry
      rw [entriesEqual, entriesEqual, equals_of_reordered expected hone.1 value value' hvalue,
        entriesEqual_of_reordered others hone.2 entries entries' hrest]

end

end Equality

end Json

end WireCodecs
