import WireCodecs.Yaml.Token

/-! The node that a YAML document is. A node with an anchor has a number, by which aliases refer to
it; where several nodes have one number, the last of them in the text is meant. -/

namespace WireCodecs.Yaml

structure NodeLabel where
  tag : Option Tag
  number : Option Nat
  deriving DecidableEq, Repr

inductive Node where
  | reference (number : Nat)
  | scalar (label : NodeLabel) (style : ScalarStyle) (text : String)
  | sequence (label : NodeLabel) (items : List Node)
  | mapping (label : NodeLabel) (entries : List (Node × Node))
  deriving Repr

namespace Node

/-- The node that stands where the text has nothing. -/
def blank : Node := scalar ⟨none, none⟩ .plain ""

mutual

/-- The number of steps in reading a node: a collection has one at either end. -/
def size : Node → Nat
  | reference _ | scalar _ _ _ => 1
  | sequence _ items => itemsSize items + 2
  | mapping _ entries => entriesSize entries + 2

def itemsSize : List Node → Nat
  | [] => 0
  | item :: items => item.size + itemsSize items

def entriesSize : List (Node × Node) → Nat
  | [] => 0
  | (key, value) :: entries => key.size + value.size + entriesSize entries

end

def label? : Node → Option NodeLabel
  | reference _ => none
  | scalar label _ _ | sequence label _ | mapping label _ => some label

def numbered (node : Node) : List (Nat × Node) :=
  ((node.label?.bind (·.number)).map fun number => (number, node)).toList

mutual

/-- The nodes with numbers, in the order of the text. -/
def targets : Node → List (Nat × Node)
  | reference number => (reference number).numbered
  | scalar label style text => (scalar label style text).numbered
  | sequence label items => (sequence label items).numbered ++ itemsTargets items
  | mapping label entries => (mapping label entries).numbered ++ entriesTargets entries

def itemsTargets : List Node → List (Nat × Node)
  | [] => []
  | item :: items => item.targets ++ itemsTargets items

def entriesTargets : List (Node × Node) → List (Nat × Node)
  | [] => []
  | (key, value) :: entries => key.targets ++ value.targets ++ entriesTargets entries

end

end Node

/-- A YAML text with one document, or with none at all. -/
structure Document where
  root : Option Node
  deriving Repr

namespace Document

/-- The nodes that aliases refer to, the last in the text first. -/
def targets (document : Document) : List (Nat × Node) :=
  ((document.root.map Node.targets).getD []).reverse

/-- The number of aliases that may be followed in reading a document. -/
def aliasLimit (document : Document) : Nat := 100 * (document.root.map Node.size).getD 1

end Document

end WireCodecs.Yaml
