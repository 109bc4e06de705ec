import WireCodecs.Yaml.Node.Parser
import WireCodecs.Yaml.Resolution

/-! Reading the parts of a document. Aliases are followed on the way; their number is limited, so a
document whose aliases multiply its size beyond measure cannot be read. A collection may be left
out: an empty node stands for the empty one, but a written null does not. -/

namespace WireCodecs.Yaml

/-- What reading a document looks at besides the node at hand. -/
structure ReadScope where
  targets : List (Nat × Node)

/-- Reading with a number of aliases that may still be followed. -/
abbrev ReadM := ReaderT ReadScope (StateT Nat Option)

/-- The node itself, or the one that it refers to. -/
def follow (node : Node) : ReadM Node := do
  match node with
  | .reference number =>
    match ← getThe Nat with
    | 0 => failure
    | left + 1 =>
      set left
      (← read).targets.lookup number
  | node => return node

/-- The text of a scalar, whatever its tag and style. -/
def readScalarText (node : Node) : ReadM String := do
  match ← follow node with
  | .scalar _ _ text => return text
  | _ => failure

section Typed

variable {α κ : Type}

/-- The items of a sequence. -/
def readItems (reader : Node → ReadM α) (node : Node) : ReadM (List α) := do
  match ← follow node with
  | .sequence _ items => items.mapM reader
  | .scalar _ .plain "" => return []
  | _ => failure

/-- The entries of a mapping. -/
def readEntries (readKey : Node → ReadM κ) (readValue : Node → ReadM α) (node : Node) :
    ReadM (List (κ × α)) := do
  match ← follow node with
  | .mapping _ entries => entries.mapM fun (key, value) => do
    return (← readKey key, ← readValue value)
  | .scalar _ .plain "" => return []
  | _ => failure

/-- The entries of a mapping with the texts of their keys, their values not read yet. -/
def readRecord (node : Node) : ReadM (List (String × Node)) := readEntries readScalarText pure node

/-- The value at a key of a record, which may be there only once. -/
def readField (entries : List (String × Node)) (key : String) (reader : Node → ReadM α) :
    ReadM (Option α) :=
  match entries.filter (·.1 = key) with
  | [] => return none
  | [(_, value)] => some <$> reader value
  | _ => failure

/-- Fails if a record has a key other than the given ones. -/
def noOtherFields (entries : List (String × Node)) (keys : List String) : ReadM Unit :=
  if entries.all fun entry => keys.contains entry.1 then return () else failure

/-- Whether a scalar stands for nothing; a tag for null may only stand at a null. -/
def readIsNull (label : NodeLabel) (style : ScalarStyle) (text : String) : ReadM Bool :=
  match style, label.tag with
  | .plain, none => return text = "" || isNullText text
  | .plain, some tag =>
    if tag != .standard "null" then return false
    else if isNullText text then return true
    else failure
  | _, _ => return false

/-- A value that may be left empty or null. -/
def readOptional (reader : Node → ReadM α) (node : Node) : ReadM (Option α) := do
  let node ← follow node
  match node with
  | .scalar label style text =>
    if ← readIsNull label style text then return none else some <$> reader node
  | node => some <$> reader node

/-- An unsigned integer below `limit`. It is plain, or literal with the tag for integers. -/
def readNatural (limit : Nat) (node : Node) : ReadM Nat := do
  match ← follow node with
  | .scalar label style text =>
    if style = .plain || (style = .literal && label.tag = some (.standard "int")) then
      ((naturalOfText? text.toList).filter (· < limit) : Option Nat)
    else failure
  | _ => failure

end Typed

namespace Document

/-- Reads the root; `absent` is the result for a text without a document. -/
def read? {α : Type} (document : Document) (absent : α) (reader : Node → ReadM α) : Option α :=
  match document.root with
  | none => some absent
  | some root => (·.1) <$> reader root ⟨document.targets⟩ document.aliasLimit

end Document

/-- Reads the document that a text has. -/
def readText? {α : Type} (text : String) (absent : α) (reader : Node → ReadM α) : Option α := do
  (← parse? text).read? absent reader

end WireCodecs.Yaml
