import Mathlib.Data.List.TakeWhile
import WireCodecs.TypeName.Parser

/-! How a type name is taken apart. A text has at most one head, and what follows the head is all
that is left of it; a cut at the first underscore is undone by putting the underscore back. With
this, what the reader does on a text is said by the head of the text alone. -/

namespace WireCodecs.TypeName

section Heads

theorem Head.mem_all (head : Head) : head ∈ Head.all := by cases head <;> decide

theorem Head.strip?_eq_some_iff {head : Head} {raw rest : List Char} :
    head.strip? raw = some rest ↔ raw = head.text.toList ++ rest :=
  Text.afterStart?_eq_some_iff

/-- No head is the start of another one. -/
theorem Head.eq_of_append_eq {head other : Head} {rest rest' : List Char}
    (h : head.text.toList ++ rest = other.text.toList ++ rest') : head = other := by
  cases head <;> cases other <;> simp_all [Head.text]

theorem Head.append_ne_nil (head : Head) (rest : List Char) : head.text.toList ++ rest ≠ [] := by
  cases head <;> simp [Head.text]

theorem eq_append_of_splitHead? {raw rest : List Char} {head : Head}
    (h : splitHead? raw = some (head, rest)) : raw = head.text.toList ++ rest := by
  obtain ⟨other, -, h⟩ := List.exists_of_findSome?_eq_some h
  obtain ⟨rest', hs, heq⟩ := Option.map_eq_some_iff.mp h
  cases heq
  exact Head.strip?_eq_some_iff.mp hs

theorem splitHead?_append (head : Head) (rest : List Char) :
    splitHead? (head.text.toList ++ rest) = some (head, rest) := by
  cases h : splitHead? (head.text.toList ++ rest) with
  | none =>
    have hnone := List.findSome?_eq_none_iff.mp h head head.mem_all
    rw [Head.strip?_eq_some_iff.mpr rfl] at hnone
    cases hnone
  | some found =>
    obtain ⟨other, rest'⟩ := found
    have happ := eq_append_of_splitHead? h
    obtain rfl := Head.eq_of_append_eq happ
    rw [List.append_cancel_left happ]

theorem splitHead?_eq_none_iff {raw : List Char} :
    splitHead? raw = none ↔ ∀ head : Head, ¬ head.text.toList <+: raw := by
  constructor
  · rintro h head ⟨rest, rfl⟩
    rw [splitHead?_append] at h
    cases h
  · intro h
    cases hs : splitHead? raw with
    | none => rfl
    | some found => exact absurd ⟨found.2, (eq_append_of_splitHead? hs).symm⟩ (h found.1)

end Heads

section Delimiter

/-- Puts the delimiter back between two parts; if there is no second part, there was none. -/
def joinAtDelimiter (first : List Char) : Option (List Char) → List Char
  | none => first
  | some rest => first ++ '_' :: rest

theorem joinAtDelimiter_cut (raw : List Char) :
    joinAtDelimiter (cutAtDelimiter raw).1 (cutAtDelimiter raw).2 = raw := by
  have happ : raw.takeWhile (· != '_') ++ raw.dropWhile (· != '_') = raw :=
    List.takeWhile_append_dropWhile
  cases hd : raw.dropWhile (· != '_') with
  | nil =>
    rw [hd, List.append_nil] at happ
    simp [cutAtDelimiter, hd, joinAtDelimiter, happ]
  | cons c rest =>
    have hc : c = '_' := by simpa [hd] using List.head?_dropWhile_not (· != '_') raw
    rw [hd, hc] at happ
    simp [cutAtDelimiter, hd, joinAtDelimiter, happ]

theorem delimiter_notMem_cut (raw : List Char) : '_' ∉ (cutAtDelimiter raw).1 := by
  intro h
  have := List.all_eq_true.mp List.all_takeWhile '_' h
  simp at this

theorem cutAtDelimiter_join {first : List Char} (h : '_' ∉ first) (rest : Option (List Char)) :
    cutAtDelimiter (joinAtDelimiter first rest) = (first, rest) := by
  have hfirst : ∀ c ∈ first, (c != '_') = true := by
    intro c hc
    simp only [bne_iff_ne, ne_eq]
    rintro rfl
    exact h hc
  cases rest with
  | none =>
    rw [joinAtDelimiter, cutAtDelimiter, List.takeWhile_eq_self_iff.mpr hfirst,
      List.dropWhile_eq_nil_iff.mpr hfirst]
    rfl
  | some rest =>
    rw [joinAtDelimiter, cutAtDelimiter, List.takeWhile_append_of_pos hfirst,
      List.dropWhile_append_of_pos hfirst]
    simp

theorem eq_join_of_cutAtDelimiter {raw first : List Char} {rest : Option (List Char)}
    (h : cutAtDelimiter raw = (first, rest)) :
    '_' ∉ first ∧ raw = joinAtDelimiter first rest := by
  have hjoin := joinAtDelimiter_cut raw
  have hmem := delimiter_notMem_cut raw
  rw [h] at hjoin hmem
  exact ⟨hmem, hjoin.symm⟩

theorem spelling_map (key value : TypeName) :
    (map key value).spelling.toList = Head.map.text.toList ++
      joinAtDelimiter key.spelling.toList (some value.spelling.toList) := by
  simp [spelling, joinAtDelimiter]

theorem spelling_entryList (key value : TypeName) :
    (entryList key value).spelling.toList = Head.entryList.text.toList ++
      joinAtDelimiter key.spelling.toList (some value.spelling.toList) := by
  simp [spelling, joinAtDelimiter]

theorem spelling_enum (base : TypeName) (name : Option String) :
    (enum base name).spelling.toList = Head.enum.text.toList ++
      joinAtDelimiter base.spelling.toList (name.map String.toList) := by
  cases name <;> simp [spelling, joinAtDelimiter]

end Delimiter

section Steps

variable {table : TypeTable}

theorem parseChars_bare {raw : List Char} (hne : raw ≠ []) (h : splitHead? raw = none) :
    parseChars table raw = .ok (leaf table raw) := by
  rw [parseChars, if_neg hne]
  split <;> simp_all

theorem parseChars_list {rest : List Char} (hne : rest ≠ []) :
    parseChars table (Head.list.text.toList ++ rest) = list <$> parseChars table rest := by
  rw [parseChars, if_neg (Head.append_ne_nil _ _)]
  split <;> rename_i h <;> rw [splitHead?_append] at h <;> cases h
  · exact absurd rfl hne
  · rfl

theorem parseChars_nullableList {rest : List Char} (hne : rest ≠ []) :
    parseChars table (Head.nullableList.text.toList ++ rest) =
      nullableList <$> parseChars table rest := by
  rw [parseChars, if_neg (Head.append_ne_nil _ _)]
  split <;> rename_i h <;> rw [splitHead?_append] at h <;> cases h
  · exact absurd rfl hne
  · rfl

theorem parseChars_map {key value : List Char} (hkey : key ≠ []) (hcut : '_' ∉ key)
    (hvalue : value ≠ []) :
    parseChars table (Head.map.text.toList ++ joinAtDelimiter key (some value)) =
      map (leaf table key) <$> parseChars table value := by
  rw [parseChars, if_neg (Head.append_ne_nil _ _)]
  split <;> rename_i h <;> rw [splitHead?_append] at h <;> cases h
  split <;> rename_i h <;> rw [cutAtDelimiter_join hcut] at h <;> cases h
  · exact absurd rfl hkey
  · exact absurd rfl hvalue
  · rfl

theorem parseChars_entryList {key value : List Char} (hkey : key ≠ []) (hcut : '_' ∉ key)
    (hvalue : value ≠ []) :
    parseChars table (Head.entryList.text.toList ++ joinAtDelimiter key (some value)) =
      entryList (leaf table key) <$> parseChars table value := by
  rw [parseChars, if_neg (Head.append_ne_nil _ _)]
  split <;> rename_i h <;> rw [splitHead?_append] at h <;> cases h
  split <;> rename_i h <;> rw [cutAtDelimiter_join hcut] at h <;> cases h
  · exact absurd rfl hkey
  · exact absurd rfl hvalue
  · rfl

theorem parseEnum_join {raw base : List Char} {name : Option (List Char)} (hbase : base ≠ [])
    (hcut : '_' ∉ base) (hname : name ≠ some []) :
    parseEnum table raw (joinAtDelimiter base name) =
      .ok (enum (leaf table base) (name.map String.ofList)) := by
  rw [parseEnum, cutAtDelimiter_join hcut]
  split <;> rename_i h <;> cases h
  · exact absurd rfl hbase
  · exact absurd rfl hname
  · rfl

theorem parseChars_enum {base : List Char} {name : Option (List Char)} (hbase : base ≠ [])
    (hcut : '_' ∉ base) (hname : name ≠ some []) :
    parseChars table (Head.enum.text.toList ++ joinAtDelimiter base name) =
      .ok (enum (leaf table base) (name.map String.ofList)) := by
  rw [parseChars, if_neg (Head.append_ne_nil _ _)]
  split <;> rename_i h <;> rw [splitHead?_append] at h <;> cases h
  exact parseEnum_join hbase hcut hname

end Steps

end WireCodecs.TypeName
