import WireCodecs.Proofs.Outcome
import WireCodecs.Proofs.TypeName.Reading

/-! Reading and spelling type names undo each other. The trees that can be read are the well-formed
ones: their leaves are bare names, marked primitive as the type table says, and where an underscore
ends a component, in front of it, the component is a leaf without an underscore. -/

namespace WireCodecs.TypeName

section WellFormed

/-- A name that stands for a type by itself: not empty, and not behind a head. -/
def IsBare (name : String) : Prop :=
  name ≠ "" ∧ ∀ head ∈ Head.all, ¬ head.text.toList <+: name.toList

/-- A bare name, marked primitive exactly if the table lists it. -/
def IsLeaf (table : TypeTable) : TypeName → Prop
  | primitive name => IsBare name ∧ table.isPrimitive name = true
  | custom name => IsBare name ∧ table.isPrimitive name = false
  | _ => False

/-- A leaf that the first underscore after it ends. -/
def IsKey (table : TypeTable) (type : TypeName) : Prop :=
  type.IsLeaf table ∧ '_' ∉ type.spelling.toList

def WellFormed (table : TypeTable) : TypeName → Prop
  | list item | nullableList item => WellFormed table item
  | map key value | entryList key value => key.IsKey table ∧ WellFormed table value
  | enum base name => base.IsKey table ∧ name ≠ some ""
  | type => type.IsLeaf table

instance (name : String) : Decidable (IsBare name) := inferInstanceAs (Decidable (_ ∧ _))

instance (table : TypeTable) : (type : TypeName) → Decidable (type.IsLeaf table)
  | primitive _ | custom _ => inferInstanceAs (Decidable (_ ∧ _))
  | list _ | nullableList _ | map _ _ | entryList _ _ | enum _ _ => .isFalse id

instance (table : TypeTable) (type : TypeName) : Decidable (type.IsKey table) :=
  inferInstanceAs (Decidable (_ ∧ _))

instance decidableWellFormed (table : TypeTable) :
    (type : TypeName) → Decidable (type.WellFormed table)
  | list item | nullableList item => decidableWellFormed table item
  | map key value | entryList key value =>
    have := decidableWellFormed table value
    inferInstanceAs (Decidable (key.IsKey table ∧ value.WellFormed table))
  | enum base name => inferInstanceAs (Decidable (base.IsKey table ∧ name ≠ some ""))
  | primitive name => inferInstanceAs (Decidable ((primitive name).IsLeaf table))
  | custom name => inferInstanceAs (Decidable ((custom name).IsLeaf table))

end WellFormed

section Leaves

variable {table : TypeTable}

theorem spelling_leaf (name : List Char) :
    (leaf table name).spelling = String.ofList name := by
  rw [leaf]
  split <;> rfl

theorem isLeaf_leaf {name : List Char} (hne : name ≠ []) (h : splitHead? name = none) :
    (leaf table name).IsLeaf table := by
  have hbare : IsBare (String.ofList name) := by
    refine ⟨by simpa using hne, fun head _ => ?_⟩
    rw [String.toList_ofList]
    exact splitHead?_eq_none_iff.mp h head
  rw [leaf]
  split
  · next hprim => exact ⟨hbare, hprim⟩
  · next hprim => exact ⟨hbare, by simpa using hprim⟩

/-- A name without underscore has no head. -/
theorem isKey_leaf {name : List Char} (hne : name ≠ []) (hcut : '_' ∉ name) :
    (leaf table name).IsKey table := by
  have hhead : splitHead? name = none := by
    refine splitHead?_eq_none_iff.mpr fun head hstart => hcut (hstart.subset ?_)
    cases head <;> decide
  exact ⟨isLeaf_leaf hne hhead, by rwa [spelling_leaf, String.toList_ofList]⟩

namespace IsLeaf

variable {type : TypeName}

theorem isBare (h : type.IsLeaf table) : IsBare type.spelling := by
  cases type <;> first | exact h.1 | exact h.elim

theorem leaf_spelling (h : type.IsLeaf table) : leaf table type.spelling.toList = type := by
  cases type with
  | primitive name => simp [leaf, spelling, h.2]
  | custom name => simp [leaf, spelling, h.2]
  | list _ | nullableList _ | map _ _ | entryList _ _ | enum _ _ => exact h.elim

theorem wellFormed (h : type.IsLeaf table) : type.WellFormed table := by
  cases type <;> first | exact h | exact h.elim

theorem spelling_ne_nil (h : type.IsLeaf table) : type.spelling.toList ≠ [] := by
  simpa using h.isBare.1

theorem parseChars_spelling (h : type.IsLeaf table) :
    parseChars table type.spelling.toList = .ok type := by
  have hhead : splitHead? type.spelling.toList = none :=
    splitHead?_eq_none_iff.mpr fun head => h.isBare.2 head head.mem_all
  rw [parseChars_bare h.spelling_ne_nil hhead, h.leaf_spelling]

end IsLeaf

end Leaves

section RoundTrip

variable {table : TypeTable}

theorem spelling_ne_nil {type : TypeName} (h : type.WellFormed table) :
    type.spelling.toList ≠ [] := by
  cases type with
  | primitive name => exact IsLeaf.spelling_ne_nil h
  | custom name => exact IsLeaf.spelling_ne_nil h
  | list _ | nullableList _ =>
    rw [spelling, String.toList_append]
    exact Head.append_ne_nil _ _
  | map _ _ =>
    rw [spelling_map]
    exact Head.append_ne_nil _ _
  | entryList _ _ =>
    rw [spelling_entryList]
    exact Head.append_ne_nil _ _
  | enum _ _ =>
    rw [spelling_enum]
    exact Head.append_ne_nil _ _

theorem wellFormed_of_parseEnum {raw rest : List Char} {type : TypeName}
    (h : parseEnum table raw rest = .ok type) :
    type.WellFormed table ∧ type.spelling.toList = Head.enum.text.toList ++ rest := by
  rw [parseEnum] at h
  split at h
  · cases h
  · cases h
  · next base name hbase hname hcut =>
    obtain ⟨hmem, rfl⟩ := eq_join_of_cutAtDelimiter hcut
    cases h
    refine ⟨⟨isKey_leaf hbase hmem, ?_⟩, ?_⟩
    · simpa [String.ofList_eq_empty_iff] using hname
    · rw [spelling_enum, spelling_leaf]
      cases name <;> simp

/-- The recursion is the reader's own: what it takes for a component is well-formed and spelled as
it stands in the text. -/
theorem wellFormed_of_parseChars {raw : List Char} {type : TypeName}
    (h : parseChars table raw = .ok type) :
    type.WellFormed table ∧ type.spelling.toList = raw := by
  fun_induction parseChars table raw generalizing type with
  | case2 raw hne hhead =>
    cases h
    exact ⟨(isLeaf_leaf hne hhead).wellFormed, by rw [spelling_leaf, String.toList_ofList]⟩
  | case5 raw _ rest _ hhead ih | case6 raw _ rest _ hhead ih =>
    obtain ⟨item, hitem, rfl⟩ := map_eq_ok_iff.mp h
    obtain ⟨hwf, hspell⟩ := ih hitem
    refine ⟨hwf, ?_⟩
    rw [eq_append_of_splitHead? hhead, spelling, String.toList_append, hspell]
  | case10 raw _ rest hhead key value hkey _ hcut ih =>
    obtain ⟨type, htype, rfl⟩ := map_eq_ok_iff.mp h
    obtain ⟨hwf, hspell⟩ := ih htype
    obtain ⟨hmem, rfl⟩ := eq_join_of_cutAtDelimiter hcut
    refine ⟨⟨isKey_leaf hkey hmem, hwf⟩, ?_⟩
    rw [eq_append_of_splitHead? hhead, spelling_map, spelling_leaf, String.toList_ofList, hspell]
  | case14 raw _ rest hhead key value hkey _ hcut ih =>
    obtain ⟨type, htype, rfl⟩ := map_eq_ok_iff.mp h
    obtain ⟨hwf, hspell⟩ := ih htype
    obtain ⟨hmem, rfl⟩ := eq_join_of_cutAtDelimiter hcut
    refine ⟨⟨isKey_leaf hkey hmem, hwf⟩, ?_⟩
    rw [eq_append_of_splitHead? hhead, spelling_entryList, spelling_leaf, String.toList_ofList,
      hspell]
  | case15 raw _ rest hhead =>
    rw [eq_append_of_splitHead? hhead]
    exact wellFormed_of_parseEnum h
  | case1 | case3 | case4 | case7 | case8 | case9 | case11 | case12 | case13 => cases h

/-- Each head is followed by what the reader expects behind it, so the induction is on the tree. -/
theorem parseChars_spelling {type : TypeName} (h : type.WellFormed table) :
    parseChars table type.spelling.toList = .ok type := by
  induction type with
  | primitive name => exact IsLeaf.parseChars_spelling h
  | custom name => exact IsLeaf.parseChars_spelling h
  | list item ih =>
    have hitem : item.WellFormed table := h
    rw [spelling, String.toList_append, parseChars_list (spelling_ne_nil hitem), ih hitem]
    rfl
  | nullableList item ih =>
    have hitem : item.WellFormed table := h
    rw [spelling, String.toList_append, parseChars_nullableList (spelling_ne_nil hitem), ih hitem]
    rfl
  | map key value _ ih =>
    obtain ⟨⟨hkey, hmem⟩, hvalue⟩ := h
    rw [spelling_map, parseChars_map hkey.spelling_ne_nil hmem (spelling_ne_nil hvalue), ih hvalue,
      hkey.leaf_spelling]
    rfl
  | entryList key value _ ih =>
    obtain ⟨⟨hkey, hmem⟩, hvalue⟩ := h
    rw [spelling_entryList, parseChars_entryList hkey.spelling_ne_nil hmem (spelling_ne_nil hvalue),
      ih hvalue, hkey.leaf_spelling]
    rfl
  | enum base name _ =>
    obtain ⟨⟨hbase, hmem⟩, hname⟩ := h
    have hname' : name.map String.toList ≠ some [] := by
      cases name <;> simp_all
    rw [spelling_enum, parseChars_enum hbase.spelling_ne_nil hmem hname', hbase.leaf_spelling]
    cases name <;> simp

theorem parse_eq_ok_iff {raw : String} {type : TypeName} :
    parse table raw = .ok type ↔ type.WellFormed table ∧ type.spelling = raw := by
  constructor
  · intro h
    obtain ⟨hwf, hspell⟩ := wellFormed_of_parseChars h
    exact ⟨hwf, String.toList_injective hspell⟩
  · rintro ⟨hwf, rfl⟩
    exact parseChars_spelling hwf

theorem spelling_injective {type other : TypeName} (h : type.WellFormed table)
    (hother : other.WellFormed table) (heq : type.spelling = other.spelling) : type = other := by
  have hparse := parse_eq_ok_iff.mpr ⟨h, heq⟩
  rw [parse_eq_ok_iff.mpr ⟨hother, rfl⟩] at hparse
  exact (Except.ok.inj hparse).symm

end RoundTrip

/-- Reading inverts spelling on the well-formed trees, and accepts nothing but their spellings. -/
theorem parse_inverts_spelling (table : TypeTable) :
    (∀ raw type, parse table raw = .ok type → type.WellFormed table ∧ type.spelling = raw) ∧
    (∀ type : TypeName, type.WellFormed table → parse table type.spelling = .ok type) ∧
    (∀ raw, (∃ type, parse table raw = .ok type) ↔
      ∃ type : TypeName, type.WellFormed table ∧ type.spelling = raw) ∧
    (∀ type other : TypeName, type.WellFormed table → other.WellFormed table →
      type.spelling = other.spelling → type = other) := by
  refine ⟨fun raw type => parse_eq_ok_iff.mp, fun type h => parse_eq_ok_iff.mpr ⟨h, rfl⟩,
    fun raw => exists_congr fun type => parse_eq_ok_iff, fun type other => spelling_injective⟩

/-- The name of an enumeration may hold underscores, and stands last. -/
theorem parse_inverts_spelling_nested :
    let type := map (primitive "String") (list (enum (primitive "Int32") (some "Event_Type")))
    type.WellFormed .standard ∧ type.spelling = "Map_String_List_Enum_Int32_Event_Type" ∧
      parse .standard type.spelling = .ok type :=
  ⟨by decide, by decide, (parse_inverts_spelling .standard).2.1 _ (by decide)⟩

end WireCodecs.TypeName
