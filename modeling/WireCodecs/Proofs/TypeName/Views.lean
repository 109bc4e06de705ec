import WireCodecs.TypeName.Extent
import WireCodecs.TypeName.Views
import WireCodecs.Proofs.TypeName.RoundTrip

/-! The views of a raw name against its tree. A view looks at the start of the text and at the first
underscore behind it, the reader at the whole; but the spelling of a well-formed tree has the head
of its own kind and no other, so both see the same shape. A name that a view finds incomplete has no
tree. -/

namespace WireCodecs.TypeName

section Bodies

/-- The head that the spelling of a type starts with. -/
def head? : TypeName → Option Head
  | primitive _ | custom _ => none
  | list _ => some .list
  | nullableList _ => some .nullableList
  | map _ _ => some .map
  | entryList _ _ => some .entryList
  | enum _ _ => some .enum

/-- The spelling of a type without its head. -/
def body : TypeName → List Char
  | primitive name | custom name => name.toList
  | list item | nullableList item => item.spelling.toList
  | map key value | entryList key value =>
    joinAtDelimiter key.spelling.toList (some value.spelling.toList)
  | enum base name => joinAtDelimiter base.spelling.toList (name.map String.toList)

variable {table : TypeTable} {type : TypeName}

theorem spelling_of_head? {head : Head} (h : type.head? = some head) :
    type.spelling.toList = head.text.toList ++ type.body := by
  cases type with
  | primitive _ | custom _ => cases h
  | list _ | nullableList _ =>
    cases h
    rw [spelling, String.toList_append, body]
  | map _ _ =>
    cases h
    exact spelling_map _ _
  | entryList _ _ =>
    cases h
    exact spelling_entryList _ _
  | enum _ _ =>
    cases h
    exact spelling_enum _ _

theorem isLeaf_of_head?_eq_none (h : type.WellFormed table) (hhead : type.head? = none) :
    type.IsLeaf table := by
  cases type with
  | primitive _ | custom _ => exact h
  | list _ | nullableList _ | map _ _ | entryList _ _ | enum _ _ => cases hhead

theorem Head.strip?_append (head other : Head) (rest : List Char) :
    head.strip? (other.text.toList ++ rest) = if other = head then some rest else none := by
  split
  · next heq => exact Head.strip?_eq_some_iff.mpr (by rw [heq])
  · next hne =>
    refine Option.eq_none_iff_forall_ne_some.mpr fun rest' h => hne ?_
    exact Head.eq_of_append_eq (Head.strip?_eq_some_iff.mp h)

/-- A head is found in front of a type exactly if it is the head of the type. -/
theorem afterHead?_spelling (h : type.WellFormed table) (head : Head) :
    afterHead? head type.spelling = if type.head? = some head then some type.body else none := by
  rw [afterHead?]
  cases hhead : type.head? with
  | none =>
    rw [if_neg (by simp)]
    refine Option.eq_none_iff_forall_ne_some.mpr fun rest hrest => ?_
    refine (isLeaf_of_head?_eq_none h hhead).isBare.2 head head.mem_all ?_
    exact ⟨rest, (Head.strip?_eq_some_iff.mp hrest).symm⟩
  | some other => simp only [spelling_of_head? hhead, Head.strip?_append, Option.some.injEq]

theorem hasHead_iff {raw : String} (h : parse table raw = .ok type) (head : Head) :
    hasHead head raw = true ↔ type.head? = some head := by
  obtain ⟨hwf, rfl⟩ := parse_eq_ok_iff.mp h
  rw [hasHead, afterHead?_spelling hwf]
  split <;> simp [*]

end Bodies

section Components

variable {table : TypeTable}

theorem component?_spelling {type : TypeName} (h : type.WellFormed table) :
    component? type.spelling.toList = some type.spelling := by
  rw [component?, String.ofList_toList]
  exact spelling_ne_nil h

theorem pairOf?_join {key value : TypeName} (hkey : key.IsKey table)
    (hvalue : value.WellFormed table) :
    pairOf? (joinAtDelimiter key.spelling.toList (some value.spelling.toList)) =
      some (key.spelling, value.spelling) := by
  rw [pairOf?, cutAtDelimiter_join hkey.2]
  simp [component?_spelling hkey.1.wellFormed, component?_spelling hvalue]

variable {raw : String} {type : TypeName}

theorem enumBaseOf?_eq_some_iff (h : parse table raw = .ok type) (text : String) :
    enumBaseOf? raw = some text ↔ ∃ base name, type = enum base name ∧ base.spelling = text := by
  obtain ⟨hwf, rfl⟩ := parse_eq_ok_iff.mp h
  rw [enumBaseOf?, afterHead?_spelling hwf]
  cases type with
  | enum base name =>
    obtain ⟨hbase, hcut⟩ := hwf.1
    simp [head?, body, cutAtDelimiter_join hcut, component?_spelling hbase.wellFormed]
  | primitive _ | custom _ | list _ | nullableList _ | map _ _ | entryList _ _ => simp [head?]

theorem itemOf?_eq_some_iff (h : parse table raw = .ok type) (text : String) :
    itemOf? raw = some text ↔
      ∃ item, (type = list item ∨ type = nullableList item) ∧ item.spelling = text := by
  obtain ⟨hwf, rfl⟩ := parse_eq_ok_iff.mp h
  rw [itemOf?, afterHead?_spelling hwf, afterHead?_spelling hwf]
  cases type with
  | list item | nullableList item =>
    have hitem : item.WellFormed table := hwf
    simp [head?, body, component?_spelling hitem]
  | primitive _ | custom _ | map _ _ | entryList _ _ | enum _ _ => simp [head?]

theorem mapOf?_eq_some_iff (h : parse table raw = .ok type) (texts : String × String) :
    mapOf? raw = some texts ↔
      ∃ key value, type = map key value ∧ (key.spelling, value.spelling) = texts := by
  obtain ⟨hwf, rfl⟩ := parse_eq_ok_iff.mp h
  rw [mapOf?, afterHead?_spelling hwf]
  cases type with
  | map key value => simp [head?, body, pairOf?_join hwf.1 hwf.2]
  | primitive _ | custom _ | list _ | nullableList _ | entryList _ _ | enum _ _ => simp [head?]

theorem entryListOf?_eq_some_iff (h : parse table raw = .ok type) (texts : String × String) :
    entryListOf? raw = some texts ↔
      ∃ key value, type = entryList key value ∧ (key.spelling, value.spelling) = texts := by
  obtain ⟨hwf, rfl⟩ := parse_eq_ok_iff.mp h
  rw [entryListOf?, afterHead?_spelling hwf]
  cases type with
  | entryList key value => simp [head?, body, pairOf?_join hwf.1 hwf.2]
  | primitive _ | custom _ | list _ | nullableList _ | map _ _ | enum _ _ => simp [head?]

end Components

section Variable

/-- The tests for containers with a variable item size, in the order of the heads. -/
def variableTests (table : TypeTable) (raw : String) : List Bool :=
  [isVariableList table raw, isVariableNullableList table raw, isVariableMap table raw,
    isVariableEntryList table raw]

def containerHeads : List Head := [.list, .nullableList, .map, .entryList]

variable {table : TypeTable} {raw : String} {type : TypeName}

/-- Of a name that is read, a test tells the head of the type and whether its shape is listed. -/
theorem variableTests_eq (h : parse table raw = .ok type) :
    variableTests table raw =
      containerHeads.map fun head => type.head? = some head && !type.isFixedShape table := by
  have hhead (head : Head) : hasHead head raw = decide (type.head? = some head) :=
    Bool.eq_iff_iff.mpr (by simp [hasHead_iff h])
  obtain ⟨-, rfl⟩ := parse_eq_ok_iff.mp h
  simp only [variableTests, isVariableList, isVariableNullableList, isVariableMap,
    isVariableEntryList, hhead]
  cases type <;> simp [containerHeads, head?, isFixedShape]

theorem count_variableTests (h : parse table raw = .ok type) :
    (variableTests table raw).count true =
      if type.isContainer && !type.isFixedShape table then 1 else 0 := by
  rw [variableTests_eq h]
  cases type <;> cases hfixed : isFixedShape table _ <;>
    simp [containerHeads, head?, isContainer]

end Variable

section Agreement

/-- What the views show of a raw name is what its tree holds. -/
structure ViewsAgree (table : TypeTable) (raw : String) (type : TypeName) : Prop where
  enum_iff : hasHead .enum raw = true ↔ ∃ base name, type = enum base name
  base_iff : ∀ text, enumBaseOf? raw = some text ↔
    ∃ base name, type = enum base name ∧ base.spelling = text
  item_iff : ∀ text, itemOf? raw = some text ↔
    ∃ item, (type = list item ∨ type = nullableList item) ∧ item.spelling = text
  map_iff : ∀ texts, mapOf? raw = some texts ↔
    ∃ key value, type = map key value ∧ (key.spelling, value.spelling) = texts
  entryList_iff : ∀ texts, entryListOf? raw = some texts ↔
    ∃ key value, type = entryList key value ∧ (key.spelling, value.spelling) = texts
  variableList_iff : isVariableList table raw = true ↔
    (∃ item, type = list item) ∧ type.isFixedShape table = false
  variableNullableList_iff : isVariableNullableList table raw = true ↔
    (∃ item, type = nullableList item) ∧ type.isFixedShape table = false
  variableMap_iff : isVariableMap table raw = true ↔
    (∃ key value, type = map key value) ∧ type.isFixedShape table = false
  variableEntryList_iff : isVariableEntryList table raw = true ↔
    (∃ key value, type = entryList key value) ∧ type.isFixedShape table = false
  exclusive : (variableTests table raw).count true ≤ 1

/-- A name with a head in front, of which the view for that head finds a component missing. -/
def IsTruncated (raw : String) : Prop :=
  ((hasHead .list raw = true ∨ hasHead .nullableList raw = true) ∧ itemOf? raw = none) ∨
  (hasHead .map raw = true ∧ mapOf? raw = none) ∨
  (hasHead .entryList raw = true ∧ entryListOf? raw = none) ∨
  (hasHead .enum raw = true ∧ enumBaseOf? raw = none)

instance (raw : String) : Decidable (IsTruncated raw) := inferInstanceAs (Decidable (_ ∨ _))

variable {table : TypeTable} {raw : String} {type : TypeName}

theorem viewsAgree_of_parse (h : parse table raw = .ok type) : ViewsAgree table raw type := by
  have htests := variableTests_eq h
  simp only [variableTests, containerHeads, List.map_cons, List.map_nil, List.cons.injEq] at htests
  obtain ⟨hlist, hnullable, hmap, hentries, -⟩ := htests
  refine ⟨?_, enumBaseOf?_eq_some_iff h, itemOf?_eq_some_iff h, mapOf?_eq_some_iff h,
    entryListOf?_eq_some_iff h, ?_, ?_, ?_, ?_, ?_⟩
  · rw [hasHead_iff h]
    cases type <;> simp [head?]
  · rw [hlist]
    cases type <;> simp [head?]
  · rw [hnullable]
    cases type <;> simp [head?]
  · rw [hmap]
    cases type <;> simp [head?]
  · rw [hentries]
    cases type <;> simp [head?]
  · rw [count_variableTests h]
    split <;> decide

theorem not_isTruncated_of_parse (h : parse table raw = .ok type) : ¬IsTruncated raw := by
  obtain ⟨hwf, rfl⟩ := parse_eq_ok_iff.mp h
  have hitem (item : TypeName) (htype : type = list item ∨ type = nullableList item) :
      itemOf? type.spelling = some item.spelling :=
    (itemOf?_eq_some_iff h _).mpr ⟨item, htype, rfl⟩
  simp only [IsTruncated, hasHead_iff h]
  rintro (⟨hhead, hnone⟩ | ⟨hhead, hnone⟩ | ⟨hhead, hnone⟩ | ⟨hhead, hnone⟩)
  · cases type <;> simp [head?] at hhead
    · rw [hitem _ (.inl rfl)] at hnone
      cases hnone
    · rw [hitem _ (.inr rfl)] at hnone
      cases hnone
  · cases type <;> cases hhead
    rw [(mapOf?_eq_some_iff h _).mpr ⟨_, _, rfl, rfl⟩] at hnone
    cases hnone
  · cases type <;> cases hhead
    rw [(entryListOf?_eq_some_iff h _).mpr ⟨_, _, rfl, rfl⟩] at hnone
    cases hnone
  · cases type <;> cases hhead
    rw [(enumBaseOf?_eq_some_iff h _).mpr ⟨_, _, rfl, rfl⟩] at hnone
    cases hnone

end Agreement

/-- The views agree with the tree of every name that is read, whatever the type table lists; and a
name whose own view finds it incomplete is never read. -/
theorem views_agree_with_tree (table : TypeTable) (raw : String) :
    (∀ type, parse table raw = .ok type → ViewsAgree table raw type) ∧
    (IsTruncated raw → ∃ e, parse table raw = .error e) := by
  refine ⟨fun type => viewsAgree_of_parse, fun htruncated => ?_⟩
  cases h : parse table raw with
  | error e => exact ⟨e, rfl⟩
  | ok type => exact absurd htruncated (not_isTruncated_of_parse h)

/-- The value of the map is taken for a list by the reader alone; the second name ends behind its
key. -/
theorem views_agree_with_tree_map :
    let type := map (primitive "String") (list (primitive "Int32"))
    (parse .standard "Map_String_List_Int32" = .ok type ∧
      ViewsAgree .standard "Map_String_List_Int32" type) ∧
    IsTruncated "Map_String_" ∧ ∃ e, parse .standard "Map_String_" = .error e := by
  have hparse : parse .standard "Map_String_List_Int32" =
      .ok (map (primitive "String") (list (primitive "Int32"))) :=
    parse_eq_ok_iff.mpr ⟨by decide, by decide⟩
  have htruncated : IsTruncated "Map_String_" := by decide
  exact ⟨⟨hparse, (views_agree_with_tree _ _).1 _ hparse⟩, htruncated,
    (views_agree_with_tree _ _).2 htruncated⟩

end WireCodecs.TypeName
