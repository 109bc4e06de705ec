import WireCodecs.Text.Lines
import WireCodecs.TypeTable
import WireCodecs.TypeName

/-! Reading a type name. The head decides the shape. A list's item and the value of a map or entry
list are read in the same way again; a key and the base of an enumeration end at the first
underscore, so they are bare names. Which bare names are primitive is the only thing that the type
table decides. -/

namespace WireCodecs.TypeName

inductive ParseError where
  | empty
  | missingItem (raw : String)
  | missingKeyOrValue (raw : String)
  | missingBase (raw : String)
  | missingEnumName (raw : String)
  deriving DecidableEq, Repr

def ParseError.message : ParseError → String
  | empty => "type name is empty"
  | missingItem raw => "'" ++ raw ++ "' is missing its item type"
  | missingKeyOrValue raw => "'" ++ raw ++ "' must have exactly a key and a value"
  | missingBase raw => "'" ++ raw ++ "' is missing its base type"
  | missingEnumName raw => "'" ++ raw ++ "' ends with a delimiter but names no enum"

/-- What follows `head`, if the text starts with it. -/
def Head.strip? (head : Head) (raw : List Char) : Option (List Char) :=
  Text.afterStart? head.text.toList raw

theorem Head.length_lt_of_strip? {head : Head} {raw rest : List Char}
    (h : head.strip? raw = some rest) : rest.length < raw.length := by
  have hpos : 0 < head.text.toList.length := by cases head <;> decide
  rw [Text.afterStart?_eq_some_iff.mp h, List.length_append]
  omega

/-- The head that a text starts with and what follows it. -/
def splitHead? (raw : List Char) : Option (Head × List Char) :=
  Head.all.findSome? fun head => (head.strip? raw).map (head, ·)

theorem length_lt_of_splitHead? {raw rest : List Char} {head : Head}
    (h : splitHead? raw = some (head, rest)) : rest.length < raw.length := by
  obtain ⟨head', _, h⟩ := List.exists_of_findSome?_eq_some h
  obtain ⟨rest', hs, heq⟩ := Option.map_eq_some_iff.mp h
  simp only [Prod.mk.injEq] at heq
  exact heq.2 ▸ Head.length_lt_of_strip? hs

/-- The text before the first underscore, and the text after it if there is one. -/
def cutAtDelimiter (raw : List Char) : List Char × Option (List Char) :=
  (raw.takeWhile (· != '_'), (raw.dropWhile (· != '_')).tail?)

theorem length_lt_of_cutAtDelimiter {raw first rest : List Char}
    (h : cutAtDelimiter raw = (first, some rest)) : rest.length < raw.length := by
  simp only [cutAtDelimiter, Prod.mk.injEq] at h
  have hle : (raw.dropWhile (· != '_')).length ≤ raw.length :=
    (List.dropWhile_suffix _).length_le
  cases hd : raw.dropWhile (· != '_') with
  | nil => simp [hd] at h
  | cons c cs =>
    simp only [hd, List.tail?_cons, Option.some.injEq] at h
    rw [hd, List.length_cons] at hle
    rw [← h.2]
    omega

/-- A bare name. -/
def leaf (table : TypeTable) (name : List Char) : TypeName :=
  let name := String.ofList name
  if table.isPrimitive name then primitive name else custom name

/-- The base and the name of an enumeration from what follows its head; `raw` is the whole text. -/
def parseEnum (table : TypeTable) (raw rest : List Char) : Except ParseError TypeName :=
  match cutAtDelimiter rest with
  | ([], _) => .error (.missingBase (String.ofList raw))
  | (_, some []) => .error (.missingEnumName (String.ofList raw))
  | (base, name) => .ok (enum (leaf table base) (name.map String.ofList))

def parseChars (table : TypeTable) (raw : List Char) : Except ParseError TypeName :=
  if raw = [] then .error .empty
  else
    match _hHead : splitHead? raw with
    | none => .ok (leaf table raw)
    | some (.list, []) | some (.nullableList, []) => .error (.missingItem (String.ofList raw))
    | some (.list, rest) => list <$> parseChars table rest
    | some (.nullableList, rest) => nullableList <$> parseChars table rest
    | some (.map, rest) =>
      match _hCut : cutAtDelimiter rest with
      | ([], _) | (_, none) | (_, some []) => .error (.missingKeyOrValue (String.ofList raw))
      | (key, some value) => map (leaf table key) <$> parseChars table value
    | some (.entryList, rest) =>
      match _hCut : cutAtDelimiter rest with
      | ([], _) | (_, none) | (_, some []) => .error (.missingKeyOrValue (String.ofList raw))
      | (key, some value) => entryList (leaf table key) <$> parseChars table value
    | some (.enum, rest) => parseEnum table raw rest
  termination_by raw.length
  decreasing_by
    · exact length_lt_of_splitHead? _hHead
    · exact length_lt_of_splitHead? _hHead
    · exact Nat.lt_trans (length_lt_of_cutAtDelimiter _hCut) (length_lt_of_splitHead? _hHead)
    · exact Nat.lt_trans (length_lt_of_cutAtDelimiter _hCut) (length_lt_of_splitHead? _hHead)

def parse (table : TypeTable) (raw : String) : Except ParseError TypeName :=
  parseChars table raw.toList

end WireCodecs.TypeName
