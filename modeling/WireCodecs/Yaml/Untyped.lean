import WireCodecs.Json
import WireCodecs.Yaml.Reading

/-! YAML documents as untyped values. A plain scalar is what its text stands for, and every other
scalar is a string, unless a standard tag asks for something else; a private tag says nothing about
a value, so nothing can be read from its node. The keys of a mapping are the texts of scalars; of
two entries with one key the later counts. -/

namespace WireCodecs.Yaml

section Scalars

/-- An integer in the range of `bits` bits, with a sign or without. -/
def fitsIn (bits : Nat) (value : Int) : Bool :=
  -(Nat.pow 2 (bits - 1) : Nat) ≤ value && value < (Nat.pow 2 bits : Nat)

def jsonOfInteger? (value : Int) : Option Json :=
  if fitsIn 64 value then some (.int value) else none

/-- The text as an integer: `none` if it is not one, and `some none` if it is one out of range.
Beyond 128 bits it is no integer. -/
def integerJson (text : String) : Option (Option Json) :=
  ((integerOfText? text.toList).filter (fitsIn 128)).map jsonOfInteger?

def jsonOfFloat : FloatText → Json
  | .finite value => .float value
  | .special => .null

/-- What a plain scalar without a tag stands for. -/
def plainJson? (text : String) : Option Json :=
  if text = "" || isNullText text then some .null
  else
    match boolOfText? text, integerJson text with
    | some value, _ => some (.bool value)
    | none, some value => value
    | none, none =>
      if hasLeadingZero text.toList then some (.string text)
      else some (((floatOfText? text).map jsonOfFloat).getD (.string text))

/-- What a scalar with a tag stands for. -/
def taggedJson? (tag : Tag) (style : ScalarStyle) (text : String) : Option Json :=
  if tag.privateName?.isSome then none
  else if tag = .standard "bool" then (boolOfText? text).map .bool
  else if tag = .standard "int" then (integerJson text).join
  else if tag = .standard "float" then (floatOfText? text).map jsonOfFloat
  else if tag = .standard "null" then if isNullText text then some .null else none
  else if tag.isMarked && style = .plain then plainJson? text
  else some (.string text)

def scalarJson? (label : NodeLabel) (style : ScalarStyle) (text : String) : Option Json :=
  match label.tag with
  | some tag => taggedJson? tag style text
  | none => if style = .plain then plainJson? text else some (.string text)

/-- Whether a node has a private tag. -/
def isPrivate (label : NodeLabel) : Bool := (label.tag.bind (·.privateName?)).isSome

end Scalars

/-- The value of a node with collections at most `depth` deep. -/
def readJson (depth : Nat) (node : Node) : ReadM Json := do
  match ← follow node, depth with
  | .scalar label style text, _ => scalarJson? label style text
  | .sequence label items, depth + 1 =>
    if isPrivate label then failure
    return .array (← items.mapM (readJson depth))
  | .mapping label entries, depth + 1 =>
    if isPrivate label then failure
    return Json.ofEntries (← entries.mapM fun (key, value) => do
      return (← readScalarText key, ← readJson depth value))
  | _, _ => failure

def maxDepth : Nat := 128

/-- The value that a YAML text holds; null if it holds none. -/
def jsonOfText? (text : String) : Option Json := readText? text .null (readJson maxDepth)

end WireCodecs.Yaml
