import WireCodecs.TypeName.Views
import WireCodecs.Proofs.TypeName.RoundTrip

/-! Where the reading of a type name fails. Every text is laid out in one of a few ways, and the
type table has no part in which: it only marks the leaves. A text is opened by the start of a
container, which is complete up to the last component, and goes on with that component; reading
fails exactly if the text behind a number of such openings has a head and lacks a component, and the
error names that text. Keys and the bases of enumerations are bare names, which are always read. -/

namespace WireCodecs.TypeName

section Untagged

/-- A tree without the marks of its leaves, which is all that the type table decides. -/
def untagged : TypeName → TypeName
  | primitive name | custom name => custom name
  | list item => list item.untagged
  | nullableList item => nullableList item.untagged
  | map key value => map key.untagged value.untagged
  | entryList key value => entryList key.untagged value.untagged
  | enum base name => enum base.untagged name

theorem untagged_leaf (table : TypeTable) (name : List Char) :
    (leaf table name).untagged = custom (String.ofList name) := by
  rw [leaf]
  split <;> rfl

end Untagged

section Openings

/-- A component that an underscore ends. -/
structure Key where
  text : List Char
  ne_nil : text ≠ []
  delimiter_notMem : '_' ∉ text

/-- A key is a bare name, so it is read with every table. -/
theorem parseChars_key (table : TypeTable) (key : Key) :
    parseChars table key.text = .ok (leaf table key.text) := by
  have hkey : (leaf table key.text).IsKey table := isKey_leaf key.ne_nil key.delimiter_notMem
  have hparse := hkey.1.parseChars_spelling
  rwa [spelling_leaf, String.toList_ofList] at hparse

/-- The start of a container up to its last component. -/
inductive Opening where
  | list
  | nullableList
  | map (key : Key)
  | entryList (key : Key)

namespace Opening

def text : Opening → List Char
  | list => Head.list.text.toList
  | nullableList => Head.nullableList.text.toList
  | map key => Head.map.text.toList ++ (key.text ++ ['_'])
  | entryList key => Head.entryList.text.toList ++ (key.text ++ ['_'])

/-- The container around its last component. -/
def wrap (table : TypeTable) : Opening → TypeName → TypeName
  | list, item => .list item
  | nullableList, item => .nullableList item
  | map key, value => .map (leaf table key.text) value
  | entryList key, value => .entryList (leaf table key.text) value

variable {table table' : TypeTable} {type other : TypeName}

theorem untagged_wrap (opening : Opening) (h : type.untagged = other.untagged) :
    (opening.wrap table type).untagged = (opening.wrap table' other).untagged := by
  cases opening <;> simp [wrap, untagged, untagged_leaf, h]

/-- Behind an opening, what is left is read as a type of its own. -/
theorem parseChars_text (table : TypeTable) (opening : Opening) {rest : List Char}
    (h : rest ≠ []) :
    parseChars table (opening.text ++ rest) = opening.wrap table <$> parseChars table rest := by
  have hjoin (key : Key) : key.text ++ ['_'] ++ rest = joinAtDelimiter key.text (some rest) := by
    simp [joinAtDelimiter]
  cases opening with
  | list => exact parseChars_list h
  | nullableList => exact parseChars_nullableList h
  | map key =>
    rw [text, List.append_assoc, hjoin, parseChars_map key.ne_nil key.delimiter_notMem h]
    rfl
  | entryList key =>
    rw [text, List.append_assoc, hjoin, parseChars_entryList key.ne_nil key.delimiter_notMem h]
    rfl

end Opening

end Openings

section Broken

/-- The component that an error is about. -/
def ParseError.component? : ParseError → Option String
  | empty => none
  | missingItem raw | missingKeyOrValue raw | missingBase raw | missingEnumName raw => some raw

/-- A text that has a head and lacks a component, with the error for it. -/
inductive Broken : List Char → ParseError → Prop
  | item {head : Head} (hhead : head = .list ∨ head = .nullableList) :
    Broken head.text.toList (.missingItem head.text)
  | pair {head : Head} (hhead : head = .map ∨ head = .entryList) {key : List Char}
    {value : Option (List Char)} (hcut : '_' ∉ key)
    (h : key = [] ∨ value = none ∨ value = some []) :
    Broken (head.text.toList ++ joinAtDelimiter key value)
      (.missingKeyOrValue (String.ofList (head.text.toList ++ joinAtDelimiter key value)))
  | base (name : Option (List Char)) :
    Broken (Head.enum.text.toList ++ joinAtDelimiter [] name)
      (.missingBase (String.ofList (Head.enum.text.toList ++ joinAtDelimiter [] name)))
  | enumName (base : Key) :
    Broken (Head.enum.text.toList ++ joinAtDelimiter base.text (some []))
      (.missingEnumName (String.ofList
        (Head.enum.text.toList ++ joinAtDelimiter base.text (some []))))

namespace Broken

variable {table : TypeTable} {raw : List Char} {e : ParseError}

theorem ne_nil (h : Broken raw e) : raw ≠ [] := by
  cases h with
  | item hhead => rcases hhead with rfl | rfl <;> decide
  | pair _ _ _ | base _ | enumName _ => exact Head.append_ne_nil _ _

theorem component?_eq (h : Broken raw e) : e.component? = some (String.ofList raw) := by
  cases h <;> simp [ParseError.component?]

theorem parseChars_item {head : Head} (hhead : head = .list ∨ head = .nullableList) :
    parseChars table head.text.toList = .error (.missingItem head.text) := by
  have hne : head.text.toList ≠ [] := (item hhead).ne_nil
  have hsplit := splitHead?_append head []
  rw [List.append_nil] at hsplit
  rw [parseChars, if_neg hne]
  rcases hhead with rfl | rfl <;> split <;> simp_all

theorem parseChars_pair {head : Head} (hhead : head = .map ∨ head = .entryList) {key : List Char}
    {value : Option (List Char)} (hcut : '_' ∉ key)
    (h : key = [] ∨ value = none ∨ value = some []) :
    parseChars table (head.text.toList ++ joinAtDelimiter key value) =
      .error
        (.missingKeyOrValue (String.ofList (head.text.toList ++ joinAtDelimiter key value))) := by
  rw [parseChars, if_neg (Head.append_ne_nil _ _)]
  rcases hhead with rfl | rfl
  all_goals
    split <;> rename_i hsplit <;> rw [splitHead?_append] at hsplit <;> cases hsplit
    split
    · rfl
    · rfl
    · rfl
    · next hkey hvalue hfound =>
      rw [cutAtDelimiter_join hcut] at hfound
      cases hfound
      simp_all

theorem parseChars_enum_of_error {rest : List Char} {e : ParseError}
    (h : parseEnum table (Head.enum.text.toList ++ rest) rest = .error e) :
    parseChars table (Head.enum.text.toList ++ rest) = .error e := by
  rw [parseChars, if_neg (Head.append_ne_nil _ _)]
  split <;> rename_i hsplit <;> rw [splitHead?_append] at hsplit <;> cases hsplit
  exact h

theorem parseChars_eq (h : Broken raw e) : parseChars table raw = .error e := by
  cases h with
  | item hhead => exact parseChars_item hhead
  | pair hhead hcut h => exact parseChars_pair hhead hcut h
  | base name =>
    refine parseChars_enum_of_error ?_
    rw [parseEnum, cutAtDelimiter_join (by simp)]
  | enumName base =>
    refine parseChars_enum_of_error ?_
    rw [parseEnum, cutAtDelimiter_join base.delimiter_notMem]
    have hne := base.ne_nil
    split <;> simp_all

end Broken

end Broken

section Layouts

/-- The ways in which a text can be laid out for the reader. -/
inductive Layout : List Char → Prop
  | empty : Layout []
  | bare {raw : List Char} (hne : raw ≠ []) (hhead : splitHead? raw = none) : Layout raw
  | enum (base : Key) {name : Option (List Char)} (hname : name ≠ some []) :
    Layout (Head.enum.text.toList ++ joinAtDelimiter base.text name)
  | broken {raw : List Char} {e : ParseError} (h : Broken raw e) : Layout raw
  | opened (opening : Opening) {rest : List Char} (hne : rest ≠ []) (h : Layout rest) :
    Layout (opening.text ++ rest)

theorem exists_joinAtDelimiter (rest : List Char) :
    ∃ first second, '_' ∉ first ∧ rest = joinAtDelimiter first second :=
  ⟨_, _, delimiter_notMem_cut rest, (joinAtDelimiter_cut rest).symm⟩

theorem layout_of_pair {head : Head} (hhead : head = .map ∨ head = .entryList) {rest : List Char}
    (h : ∀ key value, rest = joinAtDelimiter key (some value) → Layout value) :
    Layout (head.text.toList ++ rest) := by
  obtain ⟨key, value, hcut, hrest⟩ := exists_joinAtDelimiter rest
  by_cases hlacks : key = [] ∨ value = none ∨ value = some []
  · rw [hrest]
    exact .broken (.pair hhead hcut hlacks)
  · simp only [not_or] at hlacks
    obtain ⟨hkey, hvalue, hne⟩ := hlacks
    obtain ⟨value, rfl⟩ := Option.ne_none_iff_exists'.mp hvalue
    have hopened (opening : Opening)
        (htext : opening.text = head.text.toList ++ (key ++ ['_'])) :
        Layout (head.text.toList ++ rest) := by
      have happ : head.text.toList ++ rest = opening.text ++ value := by
        simp [hrest, htext, joinAtDelimiter]
      rw [happ]
      exact .opened opening (by simpa using hne) (h key value hrest)
    rcases hhead with rfl | rfl
    · exact hopened (.map ⟨key, hkey, hcut⟩) rfl
    · exact hopened (.entryList ⟨key, hkey, hcut⟩) rfl

theorem layout_of_enum (rest : List Char) : Layout (Head.enum.text.toList ++ rest) := by
  obtain ⟨base, name, hcut, rfl⟩ := exists_joinAtDelimiter rest
  by_cases hbase : base = []
  · rw [hbase]
    exact .broken (.base name)
  · by_cases hname : name = some []
    · rw [hname]
      exact .broken (.enumName ⟨base, hbase, hcut⟩)
    · exact .enum ⟨base, hbase, hcut⟩ hname

/-- What is read behind an opening is shorter, so every text has a layout. -/
theorem layout (raw : List Char) : Layout raw := by
  by_cases hne : raw = []
  · rw [hne]
    exact .empty
  cases hsplit : splitHead? raw with
  | none => exact .bare hne hsplit
  | some found =>
    obtain ⟨head, rest⟩ := found
    have hraw := eq_append_of_splitHead? hsplit
    have hlength := length_lt_of_splitHead? hsplit
    have hitem (opening : Opening) (htext : opening.text = head.text.toList)
        (hhead : head = .list ∨ head = .nullableList) : Layout raw := by
      by_cases hrest : rest = []
      · rw [hraw, hrest, List.append_nil]
        exact .broken (.item hhead)
      · rw [hraw, ← htext]
        exact .opened opening hrest (layout rest)
    have hpair (hhead : head = .map ∨ head = .entryList) : Layout raw := by
      rw [hraw]
      refine layout_of_pair hhead fun key value hrest => ?_
      have : value.length < raw.length := by
        simp [hrest, joinAtDelimiter] at hlength
        omega
      exact layout value
    cases head with
    | list => exact hitem .list rfl (.inl rfl)
    | nullableList => exact hitem .nullableList rfl (.inr rfl)
    | map => exact hpair (.inl rfl)
    | entryList => exact hpair (.inr rfl)
    | enum =>
      rw [hraw]
      exact layout_of_enum rest
  termination_by raw.length

variable {raw : List Char}

/-- Two tables give the same error, or two trees that differ at most by the marks of leaves. -/
theorem Layout.sameOutcome (h : Layout raw) (table table' : TypeTable) :
    SameOutcome (fun type other => type.untagged = other.untagged) (parseChars table raw)
      (parseChars table' raw) := by
  induction h with
  | empty =>
    rw [parseChars, parseChars, if_pos rfl, if_pos rfl]
    exact .error _
  | bare hne hhead =>
    rw [parseChars_bare hne hhead, parseChars_bare hne hhead]
    exact .ok (by rw [untagged_leaf, untagged_leaf])
  | enum base hname =>
    rw [parseChars_enum base.ne_nil base.delimiter_notMem hname,
      parseChars_enum base.ne_nil base.delimiter_notMem hname]
    exact .ok (by rw [untagged, untagged, untagged_leaf, untagged_leaf])
  | broken h =>
    rw [h.parseChars_eq, h.parseChars_eq]
    exact .error _
  | opened opening hne _ ih =>
    rw [opening.parseChars_text table hne, opening.parseChars_text table' hne]
    exact ih.map fun _ _ => opening.untagged_wrap

/-- Behind complete openings, the error is that of the text that is left. -/
theorem parseChars_openings (table : TypeTable) (openings : List Opening) {part : List Char}
    (hne : part ≠ []) {e : ParseError} :
    parseChars table (openings.flatMap Opening.text ++ part) = .error e ↔
      parseChars table part = .error e := by
  induction openings with
  | nil => rfl
  | cons opening openings ih =>
    have hrest : openings.flatMap Opening.text ++ part ≠ [] := by simp [hne]
    rw [List.flatMap_cons, List.append_assoc, opening.parseChars_text table hrest,
      map_eq_error_iff, ih]

theorem Layout.exists_broken (h : Layout raw) {table : TypeTable} {e : ParseError}
    (he : parseChars table raw = .error e) :
    raw = [] ∧ e = .empty ∨ ∃ (openings : List Opening) (part : List Char),
      raw = openings.flatMap Opening.text ++ part ∧ Broken part e := by
  induction h with
  | empty =>
    rw [parseChars, if_pos rfl] at he
    cases he
    exact .inl ⟨rfl, rfl⟩
  | bare hne hhead =>
    rw [parseChars_bare hne hhead] at he
    cases he
  | enum base hname =>
    rw [parseChars_enum base.ne_nil base.delimiter_notMem hname] at he
    cases he
  | broken h =>
    rw [h.parseChars_eq] at he
    cases he
    exact .inr ⟨[], _, rfl, h⟩
  | opened opening hne _ ih =>
    rw [opening.parseChars_text table hne, map_eq_error_iff] at he
    obtain ⟨openings, part, hrest, hbroken⟩ := (ih he).resolve_left fun hempty => hne hempty.1
    exact .inr ⟨opening :: openings, part, by simp [hrest], hbroken⟩

/-- Reading fails exactly for the empty text and where a text that lacks a component stands behind
complete openings. -/
theorem parseChars_eq_error_iff {table : TypeTable} {e : ParseError} :
    parseChars table raw = .error e ↔
      raw = [] ∧ e = .empty ∨ ∃ (openings : List Opening) (part : List Char),
        raw = openings.flatMap Opening.text ++ part ∧ Broken part e := by
  refine ⟨(layout raw).exists_broken, ?_⟩
  rintro (⟨rfl, rfl⟩ | ⟨openings, part, rfl, hbroken⟩)
  · rw [parseChars, if_pos rfl]
  · exact (parseChars_openings table openings hbroken.ne_nil).mpr hbroken.parseChars_eq

end Layouts

section Keys

variable {table : TypeTable} {raw : String}

theorem component?_eq_some_iff {text : List Char} {component : String} :
    component? text = some component ↔ text ≠ [] ∧ component = String.ofList text := by
  cases text <;> simp [component?, eq_comm]

theorem exists_key_of_component? {text : List Char} {component : String} (hcut : '_' ∉ text)
    (h : component? text = some component) :
    ∃ key : Key, key.text = text ∧ component = String.ofList key.text := by
  obtain ⟨hne, rfl⟩ := component?_eq_some_iff.mp h
  exact ⟨⟨text, hne, hcut⟩, rfl, rfl⟩

theorem parse_key (table : TypeTable) (key : Key) :
    parse table (String.ofList key.text) = .ok (leaf table key.text) := by
  rw [parse, String.toList_ofList, parseChars_key]

theorem exists_key_of_pairOf? {rest : List Char} {key value : String}
    (h : pairOf? rest = some (key, value)) :
    ∃ first : Key, key = String.ofList first.text ∧ value.toList ≠ [] ∧
      rest = first.text ++ '_' :: value.toList := by
  obtain ⟨first, second, hcut, rfl⟩ := exists_joinAtDelimiter rest
  rw [pairOf?, cutAtDelimiter_join hcut] at h
  cases second with
  | none => cases h
  | some second =>
    obtain ⟨_, hfirst, h⟩ := Option.bind_eq_some_iff.mp h
    obtain ⟨_, hsecond, h⟩ := Option.bind_eq_some_iff.mp h
    cases h
    obtain ⟨first, rfl, rfl⟩ := exists_key_of_component? hcut hfirst
    obtain ⟨hne, rfl⟩ := component?_eq_some_iff.mp hsecond
    exact ⟨first, rfl, by simpa using hne, by simp [joinAtDelimiter]⟩

/-- A key and a value that a view finds stand behind the opening of a container. -/
theorem exists_opening_of_views {key value : String}
    (h : mapOf? raw = some (key, value) ∨ entryListOf? raw = some (key, value)) :
    ∃ (first : Key) (opening : Opening), key = String.ofList first.text ∧ value.toList ≠ [] ∧
      raw.toList = opening.text ++ value.toList := by
  rcases h with h | h
  all_goals
    obtain ⟨rest, hrest, h⟩ := Option.bind_eq_some_iff.mp h
    obtain ⟨first, hkey, hvalue, rfl⟩ := exists_key_of_pairOf? h
    have hraw := Head.strip?_eq_some_iff.mp hrest
  · exact ⟨first, .map first, hkey, hvalue, by simp [hraw, Opening.text]⟩
  · exact ⟨first, .entryList first, hkey, hvalue, by simp [hraw, Opening.text]⟩

theorem exists_base_of_enumBaseOf? {base : String} (h : enumBaseOf? raw = some base) :
    ∃ (first : Key) (name : Option (List Char)), base = String.ofList first.text ∧
      raw.toList = Head.enum.text.toList ++ joinAtDelimiter first.text name := by
  obtain ⟨rest, hrest, h⟩ := Option.bind_eq_some_iff.mp h
  obtain ⟨first, name, hcut, rfl⟩ := exists_joinAtDelimiter rest
  rw [cutAtDelimiter_join hcut] at h
  obtain ⟨first, rfl, rfl⟩ := exists_key_of_component? hcut h
  exact ⟨first, name, rfl, Head.strip?_eq_some_iff.mp hrest⟩

/-- An enumeration with a base can only lack its name. -/
theorem eq_missingEnumName_of_enumBaseOf? {base : String} (hbase : enumBaseOf? raw = some base)
    {e : ParseError} (he : parse table raw = .error e) : e = .missingEnumName raw := by
  obtain ⟨first, name, -, hraw⟩ := exists_base_of_enumBaseOf? hbase
  rw [parse, hraw] at he
  by_cases hname : name = some []
  · subst hname
    rw [(Broken.enumName first).parseChars_eq, ← hraw, String.ofList_toList] at he
    cases he
    rfl
  · rw [parseChars_enum first.ne_nil first.delimiter_notMem hname] at he
    cases he

end Keys

/-- The error of a name does not depend on the type table, and neither does the tree but for the
marks of its leaves. The error is about a part at the end of the name, behind complete openings, and
is the one of this part read by itself; only the empty name is reported as empty. Keys and bases are
read with every table, so an error of a map is that of its value, and an enumeration with a base can
only lack its name. -/
theorem parse_errors_local (raw : String) :
    (∀ table table', SameOutcome (fun type other => type.untagged = other.untagged)
      (parse table raw) (parse table' raw)) ∧
    (∀ table e, parse table raw = .error e →
      raw = "" ∧ e = .empty ∨
      ∃ (openings : List Opening) (part : String), part ≠ "" ∧
        raw.toList = openings.flatMap Opening.text ++ part.toList ∧
        e.component? = some part ∧ parse table part = .error e) ∧
    (∀ table, parse table raw = .error .empty ↔ raw = "") ∧
    (∀ table key value, mapOf? raw = some (key, value) ∨ entryListOf? raw = some (key, value) →
      (∃ type, parse table key = .ok type) ∧
        ∀ e, parse table raw = .error e ↔ parse table value = .error e) ∧
    (∀ table base, enumBaseOf? raw = some base →
      (∃ type, parse table base = .ok type) ∧
        ∀ e, parse table raw = .error e → e = .missingEnumName raw) := by
  refine ⟨(layout raw.toList).sameOutcome, ?_, ?_, ?_, ?_⟩
  · intro table e he
    rcases parseChars_eq_error_iff.mp he with ⟨hnil, rfl⟩ | ⟨openings, part, hraw, hbroken⟩
    · exact .inl ⟨by simpa using hnil, rfl⟩
    · refine .inr ⟨openings, String.ofList part, ?_, ?_, hbroken.component?_eq, ?_⟩
      · simpa using hbroken.ne_nil
      · rw [hraw, String.toList_ofList]
      · rw [parse, String.toList_ofList, hbroken.parseChars_eq]
  · intro table
    rw [parse, parseChars_eq_error_iff]
    constructor
    · rintro (⟨hnil, -⟩ | ⟨_, _, -, hbroken⟩)
      · simpa using hnil
      · cases hbroken.component?_eq
    · rintro rfl
      exact .inl ⟨rfl, rfl⟩
  · intro table key value h
    obtain ⟨first, opening, rfl, hvalue, hraw⟩ := exists_opening_of_views h
    refine ⟨⟨_, parse_key table first⟩, fun e => ?_⟩
    rw [parse, parse, hraw, opening.parseChars_text table hvalue, map_eq_error_iff]
  · intro table base h
    obtain ⟨first, _, rfl, -⟩ := exists_base_of_enumBaseOf? h
    exact ⟨⟨_, parse_key table first⟩, fun e => eq_missingEnumName_of_enumBaseOf? h⟩

/-- The list in the map lacks its item, which the error names without the map around it. -/
theorem parse_errors_local_nested :
    (parse .standard "Map_String_List_" = .error (.missingItem "List_") ∧
      ∃ (openings : List Opening) (part : String), part ≠ "" ∧
        "Map_String_List_".toList = openings.flatMap Opening.text ++ part.toList ∧
        (ParseError.missingItem "List_").component? = some part ∧
        parse .standard part = .error (.missingItem "List_")) ∧
    (mapOf? "Map_String_List_" = some ("String", "List_") ∧
      ∃ type, parse .standard "String" = .ok type) ∧
    (enumBaseOf? "Enum_Int32_" = some "Int32" ∧ ∃ type, parse .standard "Int32" = .ok type) := by
  have hmap : mapOf? "Map_String_List_" = some ("String", "List_") := by decide
  have henum : enumBaseOf? "Enum_Int32_" = some "Int32" := by decide
  have herror : parse .standard "List_" = .error (.missingItem "List_") :=
    (Broken.item (.inl rfl)).parseChars_eq
  obtain ⟨-, hlocal, -, hkeys, -⟩ := parse_errors_local "Map_String_List_"
  obtain ⟨-, -, -, -, hbases⟩ := parse_errors_local "Enum_Int32_"
  obtain ⟨hkey, hvalue⟩ := hkeys .standard "String" "List_" (.inl hmap)
  have hraw := (hvalue _).mpr herror
  exact ⟨⟨hraw, (hlocal .standard _ hraw).resolve_left (by simp)⟩, ⟨hmap, hkey⟩, henum,
    (hbases .standard "Int32" henum).1⟩

end WireCodecs.TypeName
