import WireCodecs.Protocol

/-! Equality of JSON values and of documents. Values nest through lists of items and of entries, so
they are compared along with these. -/

namespace WireCodecs

namespace Json

section Equality

mutual

def same : Json → Json → Bool
  | null, null => true
  | bool value, bool other => value = other
  | int value, int other => value = other
  | float value, float other => value = other
  | string text, string other => text = other
  | array items, array others => sameItems items others
  | object entries, object others => sameEntries entries others
  | _, _ => false

def sameItems : List Json → List Json → Bool
  | [], [] => true
  | item :: items, other :: others => same item other && sameItems items others
  | _, _ => false

def sameEntries : List (String × Json) → List (String × Json) → Bool
  | [], [] => true
  | (key, value) :: entries, (other, found) :: others =>
    key = other && same value found && sameEntries entries others
  | _, _ => false

end

mutual

theorem same_iff : (value other : Json) → (same value other ↔ value = other)
  | array items, other => by
    cases other <;> simp [same, sameItems_iff items]
  | object entries, other => by
    cases other <;> simp [same, sameEntries_iff entries]
  | null, other | bool _, other | int _, other | float _, other | string _, other => by
    cases other <;> simp [same]

theorem sameItems_iff : (items others : List Json) → (sameItems items others ↔ items = others)
  | [], others => by cases others <;> simp [sameItems]
  | item :: items, others => by
    cases others <;> simp [sameItems, same_iff item, sameItems_iff items]

theorem sameEntries_iff :
    (entries others : List (String × Json)) → (sameEntries entries others ↔ entries = others)
  | [], others => by cases others <;> simp [sameEntries]
  | (key, value) :: entries, others => by
    cases others with
    | nil => simp [sameEntries]
    | cons other others =>
      obtain ⟨key', found⟩ := other
      simp [sameEntries, same_iff value, sameEntries_iff entries]

end

instance : DecidableEq Json := fun value other => decidable_of_iff _ (same_iff value other)

end Equality

end Json

instance : DecidableEq ServiceDocument := fun document other =>
  decidable_of_iff (document.path = other.path ∧ document.value = other.value) <| by
    cases document
    cases other
    simp

end WireCodecs
