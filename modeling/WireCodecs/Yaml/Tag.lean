/-! Tags of YAML nodes. A tag is a text of bytes, which escapes may choose freely, so it need not be
encoded characters. -/

namespace WireCodecs.Yaml

structure Tag where
  bytes : List UInt8
  deriving DecidableEq, Repr

namespace Tag

/-- The byte that private tags start with. -/
def mark : UInt8 := 33

def ofText (text : String) : Tag := ⟨text.toUTF8.toList⟩

/-- The tag of a kind of node that is the same in all documents. -/
def standard (name : String) : Tag := ofText ("tag:yaml.org,2002:" ++ name)

/-- The bytes of a text before the first zero, where a text of bytes ends. -/
def cut (bytes : List UInt8) : List UInt8 := bytes.takeWhile (· != 0)

/-- The name of a private tag, which has to be encoded characters. It may be empty. -/
def privateName? (tag : Tag) : Option String :=
  match tag.bytes with
  | [] => none
  | first :: rest => if first = mark then String.fromUTF8? ⟨rest.toArray⟩ else none

/-- Whether a tag starts as private ones do. -/
def isMarked (tag : Tag) : Bool := tag.bytes.head? == some mark

theorem zero_notMem_cut (bytes : List UInt8) : 0 ∉ cut bytes := fun h => by
  have := List.all_eq_true.1 (List.all_takeWhile (p := (· != 0))) 0 h
  simp at this

end Tag

end WireCodecs.Yaml
