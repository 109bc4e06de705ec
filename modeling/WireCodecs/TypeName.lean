/-! Type names. A field's type is written in one word: a bare name (`Int32`, `Address`), or a head
that ends in an underscore followed by the components, as in `List_String`, `ListCN_Int64`,
`Map_String_List_Int32`, `EntryList_UUID_Int64` and `Enum_Int32_Colour`. Here is the tree behind
such a word and its spelling. -/

namespace WireCodecs

inductive TypeName where
  /-- A name that the type table lists. -/
  | primitive (name : String)
  /-- Any other bare name. -/
  | custom (name : String)
  | list (item : TypeName)
  /-- A list that may hold nulls. -/
  | nullableList (item : TypeName)
  | map (key value : TypeName)
  /-- Pairs of keys and values, as two parallel sequences. -/
  | entryList (key value : TypeName)
  | enum (base : TypeName) (name : Option String)
  deriving DecidableEq, Repr

namespace TypeName

inductive Head where
  | list
  | nullableList
  | map
  | entryList
  | enum
  deriving DecidableEq, Repr

def Head.text : Head → String
  | list => "List_"
  | nullableList => "ListCN_"
  | map => "Map_"
  | entryList => "EntryList_"
  | enum => "Enum_"

def Head.all : List Head := [.list, .nullableList, .map, .entryList, .enum]

/-- The written form of a type. -/
def spelling : TypeName → String
  | primitive name => name
  | custom name => name
  | list item => Head.list.text ++ item.spelling
  | nullableList item => Head.nullableList.text ++ item.spelling
  | map key value => Head.map.text ++ key.spelling ++ "_" ++ value.spelling
  | entryList key value => Head.entryList.text ++ key.spelling ++ "_" ++ value.spelling
  | enum base none => Head.enum.text ++ base.spelling
  | enum base (some name) => Head.enum.text ++ base.spelling ++ "_" ++ name

def isContainer : TypeName → Bool
  | list _ | nullableList _ | map _ _ | entryList _ _ => true
  | _ => false

end TypeName

end WireCodecs
