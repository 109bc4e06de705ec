import WireCodecs.TypeTable
import WireCodecs.TypeName

/-! Which types have the same size for every value. A container counts as fixed when its items do,
which the tables say shape by shape; its item count still varies, so only scalars get a width in the
fixed part of a message. An enumeration is as large as its base, unless its full name is listed as a
primitive of its own. -/

namespace WireCodecs

inductive Extent where
  /-- The size does not depend on the value; for a container, the size of an item does not. -/
  | fixed
  | variable
  deriving DecidableEq, Repr

namespace TypeName

/-- Whether a container's shape is listed as fixed. -/
def isFixedShape (table : TypeTable) (type : TypeName) : Bool :=
  match type with
  | list _ | nullableList _ => table.fixedLists.contains type.spelling
  | map _ _ => table.fixedMaps.contains type.spelling
  | entryList _ _ => table.fixedEntryLists.contains type.spelling
  | _ => false

/-- Whether a type has the fixed extent. -/
def hasFixedExtent (table : TypeTable) : TypeName → Bool
  | enum base name =>
    table.isFixedPrimitive (enum base name).spelling || hasFixedExtent table base
  | type => table.isFixedPrimitive type.spelling || isFixedShape table type

def extent (table : TypeTable) (type : TypeName) : Extent :=
  if hasFixedExtent table type then .fixed else .variable

/-- The width of a type in the fixed part of a message. -/
def fixedWidth? (table : TypeTable) : TypeName → Option Nat
  | enum base name =>
    if extent table (enum base name) = .fixed then
      (table.fixedSize? (enum base name).spelling).or (fixedWidth? table base)
    else none
  | type =>
    if type.isContainer || extent table type = .variable then none
    else table.fixedSize? type.spelling

end TypeName

end WireCodecs
