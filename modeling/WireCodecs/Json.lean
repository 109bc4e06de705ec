import WireCodecs.Number.Binary64

/-! JSON values. Whole numbers and floating-point numbers are kept apart, as `1` and `1.0` differ
for everything that reads a document. The entries of an object are sorted by key, and no key comes
twice. -/

namespace WireCodecs

inductive Json where
  | null
  | bool (value : Bool)
  | int (value : Int)
  | float (value : Binary64)
  | string (value : String)
  | array (items : List Json)
  | object (entries : List (String × Json))
  deriving Repr

namespace Json

/-- Puts `value` at `key` into sorted entries, in place of an earlier value. -/
def insertEntry (key : String) (value : Json) : List (String × Json) → List (String × Json)
  | [] => [(key, value)]
  | (k, v) :: rest =>
    if key < k then (key, value) :: (k, v) :: rest
    else if key = k then (key, value) :: rest
    else (k, v) :: insertEntry key value rest

/-- The object with the given entries; of two with one key the later counts. -/
def ofEntries (entries : List (String × Json)) : Json :=
  object (entries.foldl (fun sorted entry => insertEntry entry.1 entry.2 sorted) [])

def get? (key : String) : Json → Option Json
  | object entries => entries.lookup key
  | _ => none

def ofStrings (texts : List String) : Json := array (texts.map string)

/-- The value, or `null` where there is none. -/
def ofOption : Option Json → Json
  | some value => value
  | none => null

end Json

end WireCodecs
