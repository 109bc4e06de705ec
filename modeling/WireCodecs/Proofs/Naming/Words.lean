import WireCodecs.Proofs.Naming

/-! Words in cased names. A word is a lower-case letter of ASCII with lower-case letters or digits
behind it, at least one. The snake forms of a name that is made of words have an underscore exactly
between two words, whether the name is in camel case or in Pascal case, so the words can be read off
them. Such names with one snake form differ in the case of the first letter at most. -/

namespace WireCodecs.Naming

open Text

def isWordChar (c : Char) : Bool := c.isLower || c.isDigit

/-- A lower-case letter and at least one letter or digit behind it. -/
def isWord (word : String) : Bool :=
  match word.toList with
  | first :: second :: rest => first.isLower && (second :: rest).all isWordChar
  | _ => false

/-- The words with a capital each. -/
def pascalJoin (words : List String) : String := String.join (words.map capital)

/-- The words with a capital each but the first. -/
def camelJoin : List String → String
  | [] => ""
  | word :: words => word ++ pascalJoin words

/-- A name that is made of words. -/
structure IsMadeOf (words : List String) (name : String) : Prop where
  ne_nil : words ≠ []
  isWord : ∀ word ∈ words, isWord word
  eq_or_eq : name = camelJoin words ∨ name = pascalJoin words

section Characters

/-- The characters of a snake form in lower case. -/
def isSnakeChar (c : Char) : Bool := isWordChar c || c == '_'

variable {c : Char}

theorem toNat_lt_of_isSnakeChar (h : isSnakeChar c) : c.toNat < 128 := by
  simp only [isSnakeChar, isWordChar, Bool.or_eq_true, beq_iff_eq] at h
  rcases h with (h | h) | rfl
  · exact toNat_lt_of_isLower h
  · exact toNat_lt_of_isDigit h
  · decide

theorem isUppercase_of_isSnakeChar (h : isSnakeChar c) : isUppercase c = false :=
  of_ascii (fun c => isSnakeChar c → isUppercase c = false) (by decide)
    (toNat_lt_of_isSnakeChar h) h

theorem upperChars_of_isSnakeChar (h : isSnakeChar c) : upperChars c = [c.toUpper] := by
  rw [upperChars, if_pos (toNat_lt_of_isSnakeChar h)]

theorem lowerChars_toUpper (h : isSnakeChar c) : lowerChars c.toUpper = [c] :=
  of_ascii (fun c => isSnakeChar c → lowerChars c.toUpper = [c]) (by decide)
    (toNat_lt_of_isSnakeChar h) h

theorem isSnakeChar_of_isWordChar (h : isWordChar c) : isSnakeChar c := by
  rw [isSnakeChar, h, Bool.true_or]

theorem isWordChar_of_isLower (h : c.isLower) : isWordChar c := by
  rw [isWordChar, h, Bool.true_or]

/-- A capital behind a word starts a new one. -/
theorem isBoundary_of_isWordChar (h : isWordChar c) (next : Option Char) : isBoundary c next := by
  have hc : c ≠ '_' ∧ (isLowercase c || c.isDigit) :=
    of_ascii (fun c => isWordChar c → c ≠ '_' ∧ (isLowercase c || c.isDigit)) (by decide)
      (toNat_lt_of_isSnakeChar (isSnakeChar_of_isWordChar h)) h
  rw [isBoundary, bne_iff_ne.mpr hc.1, hc.2, Bool.true_or, Bool.and_self]

theorem upper_of_isLower (h : c.isLower) :
    isUppercase c.toUpper ∧ upperChars c.toUpper = [c.toUpper] :=
  of_ascii (fun c => c.isLower → isUppercase c.toUpper ∧ upperChars c.toUpper = [c.toUpper])
    (by decide) (toNat_lt_of_isLower h) h

end Characters

section SnakeTexts

/-- A snake form in lower case. -/
def IsSnake (text : String) : Prop := ∀ c ∈ text.toList, isSnakeChar c

variable {text : String}

/-- No character of a snake form in lower case gets an underscore. -/
theorem upperSnakeAfter_append {chars : List Char} (h : ∀ c ∈ chars, isSnakeChar c)
    (previous : Char) (rest : List Char) :
    upperSnakeAfter previous (chars ++ rest) =
      chars.map Char.toUpper ++ upperSnakeAfter (chars.getLast?.getD previous) rest := by
  induction chars generalizing previous with
  | nil => rfl
  | cons c chars ih =>
    rw [List.forall_mem_cons] at h
    rw [List.cons_append, upperSnakeAfter, isUppercase_of_isSnakeChar h.1, Bool.false_and,
      if_neg Bool.false_ne_true, upperChars_of_isSnakeChar h.1, ih h.2, List.getLast?_cons]
    rfl

theorem upperSnake_of_isSnake (h : IsSnake text) : upperSnake text = text.toUpper := by
  rw [IsSnake] at h
  rw [upperSnake, String.toUpper, ← String.toList_inj, String.toList_ofList, String.toList_map]
  cases hchars : text.toList with
  | nil => rfl
  | cons first chars =>
    rw [hchars, List.forall_mem_cons] at h
    have hall := upperSnakeAfter_append h.2 first []
    rw [List.append_nil, upperSnakeAfter, List.append_nil] at hall
    rw [upperSnakeChars, upperChars_of_isSnakeChar h.1, hall]
    rfl

theorem lowerFrom_map_toUpper {chars : List Char} (h : ∀ c ∈ chars, isSnakeChar c)
    (before : List Char) : lowerFrom before (chars.map Char.toUpper) = chars := by
  induction chars generalizing before with
  | nil => rfl
  | cons c chars ih =>
    rw [List.forall_mem_cons] at h
    have hsigma : c.toUpper ≠ 'Σ' :=
      of_ascii (fun c => c.toUpper ≠ 'Σ') (by decide) (toNat_lt_of_isSnakeChar h.1)
    rw [List.map_cons, lowerFrom, lowerChars_toUpper h.1, ih h.2, if_neg hsigma]
    rfl

theorem lowercase_toUpper (h : IsSnake text) : lowercase text.toUpper = text := by
  rw [lowercase, String.toUpper, String.toList_map, lowerFrom_map_toUpper h, String.ofList_toList]

theorem snake_of_isSnake (h : IsSnake text) : snake text = text := by
  rw [snake, upperSnake_of_isSnake h, lowercase_toUpper h]

end SnakeTexts

section Words

variable {word : String} {words others : List String} {name other : String}

theorem exists_of_isWord (h : isWord word) :
    ∃ first second rest, word.toList = first :: second :: rest ∧ first.isLower ∧
      ∀ c ∈ second :: rest, isWordChar c := by
  unfold isWord at h
  split at h
  · next first second rest hchars =>
    rw [Bool.and_eq_true, List.all_eq_true] at h
    exact ⟨first, second, rest, hchars, h.1, h.2⟩
  · cases h

theorem isWordChar_of_isWord (h : isWord word) : ∀ c ∈ word.toList, isWordChar c := by
  obtain ⟨first, second, rest, hchars, hfirst, hrest⟩ := exists_of_isWord h
  rw [hchars, List.forall_mem_cons]
  exact ⟨isWordChar_of_isLower hfirst, hrest⟩

theorem toList_capital {first : Char} {rest : List Char} (h : word.toList = first :: rest)
    (hfirst : first.isLower) : (capital word).toList = first.toUpper :: rest := by
  have hsnake := isSnakeChar_of_isWordChar (isWordChar_of_isLower hfirst)
  rw [capital, String.toList_ofList, h, capitalChars, upperChars_of_isSnakeChar hsnake]
  rfl

theorem toList_joinWith_cons (word : String) (words : List String) :
    (joinWith "_" (word :: words)).toList =
      word.toList ++ words.flatMap fun word => '_' :: word.toList := by
  induction words generalizing word with
  | nil => simp [joinWith]
  | cons next words ih =>
    rw [joinWith_cons (List.cons_ne_nil _ _), String.toList_append, ih]
    simp

theorem isSnake_joinWith (h : ∀ word ∈ words, isWord word) : IsSnake (joinWith "_" words) := by
  cases words with
  | nil => exact List.forall_mem_nil _
  | cons word words =>
    rw [List.forall_mem_cons] at h
    intro c hc
    rw [toList_joinWith_cons, List.mem_append, List.mem_flatMap] at hc
    rcases hc with hc | ⟨later, hlater, hc⟩
    · exact isSnakeChar_of_isWordChar (isWordChar_of_isWord h.1 c hc)
    · rcases List.mem_cons.mp hc with rfl | hc
      · decide
      · exact isSnakeChar_of_isWordChar (isWordChar_of_isWord (h.2 later hlater) c hc)

/-- What follows the rest of a word follows a character of a word. -/
theorem upperSnakeAfter_tail_append {tail rest snakeRest : List Char} (hne : tail ≠ [])
    (htail : ∀ c ∈ tail, isWordChar c)
    (hrest : ∀ last, isWordChar last → upperSnakeAfter last rest = snakeRest) (previous : Char) :
    upperSnakeAfter previous (tail ++ rest) = tail.map Char.toUpper ++ snakeRest := by
  have hlast : isWordChar (tail.getLast?.getD previous) := by
    rw [List.getLast?_eq_some_getLast hne]
    exact htail _ (List.getLast_mem hne)
  rw [upperSnakeAfter_append (fun c hc => isSnakeChar_of_isWordChar (htail c hc)), hrest _ hlast]

/-- Behind a word each further one begins with an underscore. -/
theorem upperSnakeAfter_pascalJoin (h : ∀ word ∈ words, isWord word) (previous : Char)
    (hprevious : isWordChar previous) : upperSnakeAfter previous (pascalJoin words).toList =
      words.flatMap fun word => '_' :: word.toList.map Char.toUpper := by
  induction words generalizing previous with
  | nil => rfl
  | cons word words ih =>
    rw [List.forall_mem_cons] at h
    obtain ⟨first, second, rest, hchars, hfirst, hrest⟩ := exists_of_isWord h.1
    obtain ⟨hupper, hcapital⟩ := upper_of_isLower hfirst
    have hsplit : (pascalJoin (word :: words)).toList =
        first.toUpper :: (second :: rest ++ (pascalJoin words).toList) := by
      simp [pascalJoin, toList_capital hchars hfirst]
    rw [hsplit, upperSnakeAfter, hupper, isBoundary_of_isWordChar hprevious, Bool.and_self,
      if_pos rfl, hcapital,
      upperSnakeAfter_tail_append (List.cons_ne_nil _ _) hrest (ih h.2), List.flatMap_cons, hchars]
    rfl

/-- The two ways to put words together differ in the case of the first letter. -/
theorem IsMadeOf.exists_first (h : IsMadeOf words name) :
    ∃ first tail, first.isLower ∧ (camelJoin words).toList = first :: tail ∧
      (name.toList = first :: tail ∨ name.toList = first.toUpper :: tail) ∧
      ∀ previous, first.toUpper :: upperSnakeAfter previous tail =
        (joinWith "_" words).toList.map Char.toUpper := by
  obtain ⟨hne, hwords, hname⟩ := h
  obtain ⟨word, words, rfl⟩ := List.exists_cons_of_ne_nil hne
  rw [List.forall_mem_cons] at hwords
  obtain ⟨first, second, rest, hchars, hfirst, hrest⟩ := exists_of_isWord hwords.1
  have hcamel : (camelJoin (word :: words)).toList =
      first :: (second :: rest ++ (pascalJoin words).toList) := by
    simp [camelJoin, hchars]
  have hpascal : (pascalJoin (word :: words)).toList =
      first.toUpper :: (second :: rest ++ (pascalJoin words).toList) := by
    simp [pascalJoin, toList_capital hchars hfirst]
  refine ⟨first, _, hfirst, hcamel, ?_, fun previous => ?_⟩
  · rcases hname with rfl | rfl
    · exact .inl hcamel
    · exact .inr hpascal
  · rw [upperSnakeAfter_tail_append (List.cons_ne_nil _ _) hrest
      (upperSnakeAfter_pascalJoin hwords.2), toList_joinWith_cons, hchars, List.map_append,
      List.map_flatMap]
    rfl

theorem IsMadeOf.upperSnake_eq (h : IsMadeOf words name) :
    upperSnake name = (joinWith "_" words).toUpper := by
  obtain ⟨first, tail, hfirst, -, hname, hsnake⟩ := h.exists_first
  have hword : isWordChar first := isWordChar_of_isLower hfirst
  rw [upperSnake, String.toUpper, ← String.toList_inj, String.toList_ofList, String.toList_map]
  rcases hname with hname | hname
  · rw [hname, upperSnakeChars, upperChars_of_isSnakeChar (isSnakeChar_of_isWordChar hword)]
    exact hsnake first
  · rw [hname, upperSnakeChars, (upper_of_isLower hfirst).2]
    exact hsnake first.toUpper

theorem IsMadeOf.uncapital_eq (h : IsMadeOf words name) : uncapital name = camelJoin words := by
  obtain ⟨first, tail, hfirst, hcamel, hname, -⟩ := h.exists_first
  have hlower : lowerChars first = [first] ∧ lowerChars first.toUpper = [first] :=
    of_ascii (fun c => c.isLower → lowerChars c = [c] ∧ lowerChars c.toUpper = [c]) (by decide)
      (toNat_lt_of_isLower hfirst) hfirst
  rw [uncapital, ← String.toList_inj, String.toList_ofList, hcamel]
  rcases hname with hname | hname
  · rw [hname, uncapitalChars, hlower.1]
    rfl
  · rw [hname, uncapitalChars, hlower.2]
    rfl

theorem isMadeOf_uncapital (h : IsMadeOf words name) : IsMadeOf words (uncapital name) :=
  ⟨h.ne_nil, h.isWord, .inl h.uncapital_eq⟩

theorem IsMadeOf.snake_eq (h : IsMadeOf words name) : snake name = joinWith "_" words := by
  rw [snake, h.upperSnake_eq, lowercase_toUpper (isSnake_joinWith h.isWord)]

/-- The words are the pieces between the underscores. -/
theorem IsMadeOf.splitOn_eq (h : IsMadeOf words name) :
    splitOn '_' (joinWith "_" words) = words := by
  refine splitOn_joinWith h.ne_nil fun word hword hmark => ?_
  exact absurd (isWordChar_of_isWord (h.isWord word hword) '_' hmark) (by decide)

theorem IsMadeOf.joinWith_eq_iff (h : IsMadeOf words name) (h' : IsMadeOf others other) :
    joinWith "_" words = joinWith "_" others ↔ uncapital name = uncapital other := by
  constructor
  · intro heq
    rw [h.uncapital_eq, h'.uncapital_eq, ← h.splitOn_eq, heq, h'.splitOn_eq]
  · intro heq
    rw [← (isMadeOf_uncapital h).snake_eq, heq, (isMadeOf_uncapital h').snake_eq]

theorem toUpper_joinWith (words : List String) :
    (joinWith "_" words).toUpper = joinWith "_" (words.map String.toUpper) := by
  cases words with
  | nil => simp [joinWith, String.toUpper, ← String.toList_inj]
  | cons word words =>
    simp only [← String.toList_inj, String.toUpper, String.toList_map, List.map_cons,
      toList_joinWith_cons, List.map_append, List.map_flatMap, List.flatMap_map]
    rfl

end Words

theorem snakeForms_of_isMadeOf {words others : List String} {name other : String}
    (h : IsMadeOf words name) (h' : IsMadeOf others other) :
    upperSnake name = joinWith "_" (words.map String.toUpper) ∧ snake name = joinWith "_" words ∧
      (upperSnake name = upperSnake other ↔ uncapital name = uncapital other) ∧
      (snake name = snake other ↔ uncapital name = uncapital other) ∧
      snake (snake name) = snake name := by
  have hsnake := isSnake_joinWith h.isWord
  have hsnake' := isSnake_joinWith h'.isWord
  rw [← h.joinWith_eq_iff h', h.upperSnake_eq, h'.upperSnake_eq, h.snake_eq, h'.snake_eq]
  refine ⟨toUpper_joinWith words, rfl, ⟨fun heq => ?_, congrArg String.toUpper⟩, Iff.rfl,
    snake_of_isSnake hsnake⟩
  rw [← lowercase_toUpper hsnake, heq, lowercase_toUpper hsnake']

/-- A word that ends in a digit, in camel case and in Pascal case. -/
theorem snakeForms_of_isMadeOf_digit :
    IsMadeOf ["get", "all2", "keys"] "getAll2Keys" ∧
      IsMadeOf ["get", "all2", "keys"] "GetAll2Keys" ∧
      upperSnake "getAll2Keys" = joinWith "_" (["get", "all2", "keys"].map String.toUpper) ∧
      upperSnake "getAll2Keys" = upperSnake "GetAll2Keys" ∧
      snake (snake "GetAll2Keys") = "get_all2_keys" := by
  have hcamel : IsMadeOf ["get", "all2", "keys"] "getAll2Keys" := ⟨by decide, by decide, by decide⟩
  have hpascal : IsMadeOf ["get", "all2", "keys"] "GetAll2Keys" := ⟨by decide, by decide, by decide⟩
  obtain ⟨hupper, -, hsame, -, -⟩ := snakeForms_of_isMadeOf hcamel hpascal
  obtain ⟨-, hsnake, -, -, hagain⟩ := snakeForms_of_isMadeOf hpascal hcamel
  exact ⟨hcamel, hpascal, hupper, hsame.mpr (by decide), hagain.trans hsnake⟩

end WireCodecs.Naming
