import WireCodecs.Text.Folding
import WireCodecs.Text.Property

/-! Sets of characters, built from ranges. -/

namespace WireCodecs

open Text

inductive CharSet where
  | ranges (ranges : List CodeRange)
  | complement (set : CharSet)
  | union (first second : CharSet)
  | inter (first second : CharSet)
  /-- The characters that differ from a member in case only. -/
  | folded (set : CharSet)
  deriving DecidableEq, Repr

namespace CharSet

def contains : CharSet → Char → Bool
  | ranges list, c => list.any (·.contains c)
  | complement set, c => !set.contains c
  | union first second, c => first.contains c || second.contains c
  | inter first second, c => first.contains c && second.contains c
  | folded set, c => (caseVariants c).any set.contains

def empty : CharSet := ranges []

def between (first last : Char) : CharSet := ranges [.between first last]

def single (c : Char) : CharSet := between c c

def any : CharSet := complement empty

def notLineFeed : CharSet := complement (single '\n')

/-- The members of the first set that are not in the second. -/
def difference (first second : CharSet) : CharSet := inter first (complement second)

/-- The members of exactly one of two sets. -/
def symmetricDifference (first second : CharSet) : CharSet :=
  union (difference first second) (difference second first)

/-- The set itself, or what it leaves out; case is forgotten first if it makes no difference. -/
def close (isCaseless isNegated : Bool) (set : CharSet) : CharSet :=
  let set := if isCaseless then folded set else set
  if isNegated then complement set else set

section Membership

theorem contains_difference (first second : CharSet) (c : Char) :
    (difference first second).contains c = (first.contains c && !second.contains c) := rfl

theorem contains_symmetricDifference (first second : CharSet) (c : Char) :
    (symmetricDifference first second).contains c = (first.contains c != second.contains c) := by
  simp only [symmetricDifference, contains, contains_difference]
  cases first.contains c <;> cases second.contains c <;> rfl

theorem contains_any (c : Char) : any.contains c = true := rfl

end Membership

section Size

/-- The number of ranges that make up a set. -/
def rangeCount : CharSet → Nat
  | ranges list => list.length
  | complement set | folded set => set.rangeCount
  | union first second | inter first second => first.rangeCount + second.rangeCount

/-- Whether no character beyond ASCII was written as a member. -/
def isAscii : CharSet → Bool
  | ranges list => list.all (·.last < 0x80)
  | complement _ => false
  | folded set => set.isAscii
  | union first second => first.isAscii && second.isAscii
  | inter first second => first.isAscii || second.isAscii

/-- The bytes that an automaton for a set takes, nearly: it reads bytes, so that a set beyond ASCII
takes several states. -/
def size (set : CharSet) : Nat :=
  if set.isAscii then 64 + 8 * set.rangeCount
  else
    match set with
    | ranges list => 64 + 64 * list.length
    | set => 936 + 64 * set.rangeCount

end Size

end CharSet

/-- Classes of characters that have a letter of their own. -/
inductive CharClass where
  | digit
  | word
  | space
  deriving DecidableEq, Repr

namespace CharClass

/-- The narrow meaning of a class, with few characters beyond ASCII. -/
def narrow : CharClass → CharSet
  | digit => .between '0' '9'
  | word => .ranges [.between 'A' 'Z', .between 'a' 'z', .between '0' '9', .between '_' '_']
  | space => .ranges [⟨0x9, 0xD⟩, ⟨0x20, 0x20⟩, ⟨0xA0, 0xA0⟩, ⟨0x2003, 0x2003⟩, ⟨0x2029, 0x2029⟩,
      ⟨0xFEFF, 0xFEFF⟩]

/-- The wide meaning of a class, with the characters of all languages. -/
def wide : CharClass → CharSet
  | digit => .ranges decimalRanges
  | word => .ranges wordRanges
  | space => .ranges blankRanges

/-- The class with a name between colons in brackets. -/
def named? (name : String) : Option CharSet :=
  let set (ranges : List (Char × Char)) :=
    some (CharSet.ranges (ranges.map fun (first, last) => .between first last))
  match name with
  | "alnum" => set [('0', '9'), ('A', 'Z'), ('a', 'z')]
  | "alpha" => set [('A', 'Z'), ('a', 'z')]
  | "ascii" => set [('\x00', '\x7f')]
  | "blank" => set [('\t', '\t'), (' ', ' ')]
  | "cntrl" => set [('\x00', '\x1f'), ('\x7f', '\x7f')]
  | "digit" => set [('0', '9')]
  | "graph" => set [('!', '~')]
  | "lower" => set [('a', 'z')]
  | "print" => set [(' ', '~')]
  | "punct" => set [('!', '/'), (':', '@'), ('[', '\x60'), ('\x7b', '~')]
  | "space" => set [('\t', '\r'), (' ', ' ')]
  | "upper" => set [('A', 'Z')]
  | "word" => set [('0', '9'), ('A', 'Z'), ('_', '_'), ('a', 'z')]
  | "xdigit" => set [('0', '9'), ('A', 'F'), ('a', 'f')]
  | _ => none

end CharClass

end WireCodecs
