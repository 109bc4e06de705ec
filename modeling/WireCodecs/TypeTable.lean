/-! The tables that say which types have a fixed width on the wire: the fixed-width primitives with
their sizes in bytes, the variable-width primitives, and for each kind of container the shapes that
are encoded with a fixed item size. -/

namespace WireCodecs

structure TypeTable where
  fixedPrimitives : List (String × Nat)
  variablePrimitives : List String
  /-- Shapes of lists, those with null items included. -/
  fixedLists : List String
  fixedMaps : List String
  fixedEntryLists : List String
  deriving DecidableEq, Repr

namespace TypeTable

def standard : TypeTable where
  fixedPrimitives := [("Boolean", 1), ("Byte", 1), ("Int16", 2), ("Int32", 4), ("Int64", 8),
    ("Float32", 4), ("Float64", 8), ("UUID", 17), ("LocalDate", 6), ("LocalTime", 7),
    ("LocalDateTime", 13), ("OffsetDateTime", 17)]
  variablePrimitives := ["String", "ByteArray", "Data"]
  fixedLists := ["List_Int32", "List_Int64", "List_UUID"]
  fixedMaps := []
  fixedEntryLists := ["EntryList_Int32_Int64", "EntryList_Int32_UUID", "EntryList_UUID_Int64",
    "EntryList_UUID_UUID"]

def fixedSize? (table : TypeTable) (name : String) : Option Nat :=
  table.fixedPrimitives.lookup name

def isFixedPrimitive (table : TypeTable) (name : String) : Bool :=
  (table.fixedSize? name).isSome

def isPrimitive (table : TypeTable) (name : String) : Bool :=
  table.isFixedPrimitive name || table.variablePrimitives.contains name

end TypeTable

end WireCodecs
