import WireCodecs.TypeName.Parser

/-! Type names as texts. Each view takes a raw name apart by its head alone, without reading the
components, and gives nothing where a component is missing. The four `isVariable` tests tell which
kind of container with a variable item size the raw name is written as. -/

namespace WireCodecs.TypeName

/-- What follows `head` in a raw name. -/
def afterHead? (head : Head) (raw : String) : Option (List Char) := head.strip? raw.toList

def hasHead (head : Head) (raw : String) : Bool := (afterHead? head raw).isSome

/-- A component, unless it is missing. -/
def component? : List Char → Option String
  | [] => none
  | text => some (String.ofList text)

/-- The item type of a list's name, of either kind of list. -/
def itemOf? (raw : String) : Option String :=
  ((afterHead? .list raw).or (afterHead? .nullableList raw)).bind component?

/-- The key and the value in what follows the head of a map or an entry list. -/
def pairOf? (rest : List Char) : Option (String × String) :=
  match cutAtDelimiter rest with
  | (key, some value) => do return (← component? key, ← component? value)
  | (_, none) => none

def mapOf? (raw : String) : Option (String × String) := (afterHead? .map raw).bind pairOf?

def entryListOf? (raw : String) : Option (String × String) :=
  (afterHead? .entryList raw).bind pairOf?

/-- The base type of an enumeration's name, without the name of the enumeration. -/
def enumBaseOf? (raw : String) : Option String :=
  (afterHead? .enum raw).bind fun rest => component? (cutAtDelimiter rest).1

section Variable

def isVariableList (table : TypeTable) (raw : String) : Bool :=
  hasHead .list raw && !table.fixedLists.contains raw

def isVariableNullableList (table : TypeTable) (raw : String) : Bool :=
  hasHead .nullableList raw && !table.fixedLists.contains raw

def isVariableMap (table : TypeTable) (raw : String) : Bool :=
  hasHead .map raw && !table.fixedMaps.contains raw

def isVariableEntryList (table : TypeTable) (raw : String) : Bool :=
  hasHead .entryList raw && !table.fixedEntryLists.contains raw

end Variable

end WireCodecs.TypeName
