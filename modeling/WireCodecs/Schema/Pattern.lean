import Std.Data.HashMap
import WireCodecs.Schema.CharSet

/-! Patterns for strings. A match runs from a place of a text to another, where a place is a
position and what the groups before it have matched. The meaning of a pattern at a place is the list
of places at which a match that begins there can end, in the order of preference. A text fits a
pattern if a match begins anywhere in it. -/

namespace WireCodecs

/-- Positions by what stands around them. -/
inductive Edge where
  /-- The start of the text. -/
  | start
  /-- The end of the text. -/
  | finish
  /-- The end of the text, but for line feeds. -/
  | finishOfLines
  | lineStart
  | lineFinish
  /-- Between a word character and another one. -/
  | word
  | noWord
  | wordStart
  | wordFinish
  /-- Not behind a word character. -/
  | afterNoWord
  /-- Not in front of a word character. -/
  | beforeNoWord
  deriving DecidableEq, Repr

namespace Edge

def isWordAt (text : Array Char) (position : Nat) : Bool := text[position]?.any Text.isWord

def isWordBefore (text : Array Char) (position : Nat) : Bool :=
  position != 0 && isWordAt text (position - 1)

/-- Whether an edge is at a position. -/
def isAt (text : Array Char) (position : Nat) : Edge → Bool
  | start => position == 0
  | finish => position == text.size
  | finishOfLines => (text.toList.drop position).all (· == '\n')
  | lineStart => position == 0 || text[position - 1]? == some '\n'
  | lineFinish => position == text.size || text[position]? == some '\n'
  | word => isWordBefore text position != isWordAt text position
  | noWord => isWordBefore text position == isWordAt text position
  | wordStart => !isWordBefore text position && isWordAt text position
  | wordFinish => isWordBefore text position && !isWordAt text position
  | afterNoWord => !isWordBefore text position
  | beforeNoWord => !isWordAt text position

end Edge

inductive Pattern where
  | empty
  | one (set : CharSet)
  | edge (kind : Edge)
  | seq (first second : Pattern)
  | either (first second : Pattern)
  /-- At least `least` times the body, and at most `most` times if that is given; more often is
  preferred unless `isLazy`. -/
  | repeated (body : Pattern) (least : Nat) (most : Option Nat) (isLazy : Bool)
  /-- The preferred match of the body and no other. -/
  | preferred (body : Pattern)
  /-- Remembers what the body matches under a number. -/
  | group (number : Nat) (body : Pattern)
  /-- What a group has matched last, once more. -/
  | echo (number : Nat) (isCaseless : Bool)
  /-- Whether the body matches from here on, or up to here with `isBehind`. -/
  | look (isBehind isNegated : Bool) (body : Pattern)
  deriving DecidableEq, Repr

namespace Pattern

structure Place where
  position : Nat
  /-- The positions around what each group has matched last. -/
  groups : List (Nat × Nat × Nat)
  deriving DecidableEq, Hashable, Repr

namespace Place

def ofPosition (position : Nat) : Place := ⟨position, []⟩

def advance (place : Place) (count : Nat) : Place :=
  { place with position := place.position + count }

/-- Remembers a match that began at `start` under a number. -/
def remember (place : Place) (number start : Nat) : Place :=
  { place with
    groups := (number, start, place.position) :: place.groups.filter (·.1 != number) }

/-- What a group has matched last. -/
def matched? (place : Place) (text : Array Char) (number : Nat) : Option (List Char) :=
  (place.groups.lookup number).map fun (start, finish) => (text.extract start finish).toList

end Place

/-- Places in the order in which they have been found, the latest first. -/
structure Found where
  places : List Place
  /-- How many steps were left at each of them. -/
  left : Std.HashMap Place Nat

namespace Found

def empty : Found := ⟨[], ∅⟩

def add (found : Found) (left : Nat) (place : Place) : Found where
  places := if found.left.contains place then found.places else place :: found.places
  left := found.left.insert place left

/-- Whether nothing new is found from a place on with a number of steps left, which makes no
difference unless it is bounded. -/
def covers (found : Found) (isBounded : Bool) (left : Nat) (place : Place) : Bool :=
  found.left[place]?.any fun before => !isBounded || left ≤ before

def toList (found : Found) : List Place := found.places.reverse

end Found

section Steps

/-- The places of a list, each only once. -/
def distinct (places : List Place) : List Place := (places.foldl (·.add 0 ·) Found.empty).toList

/-- The places after exactly `count` steps. -/
def iterate (step : List Place → List Place) : (count : Nat) → List Place → List Place
  | 0, places => places
  | _, [] => []
  | count + 1, places => iterate step count (step places)

/-- Finds the places after at most `left` steps that each go forward. -/
def explore (step : List Place → List Place) (isBounded isLazy : Bool) (left : Nat) (found : Found)
    (place : Place) : Found :=
  if found.covers isBounded left place then found
  else
    match left with
    | 0 => found.add 0 place
    | left + 1 =>
      let further := (step [place]).filter fun next => place.position < next.position
      if isLazy then further.foldl (explore step isBounded isLazy left) (found.add (left + 1) place)
      else (further.foldl (explore step isBounded isLazy left) found).add (left + 1) place

/-- The places after at most `most` steps, or after any number of them, which is never more than the
length of the text. -/
def closure (step : List Place → List Place) (length : Nat) (most : Option Nat) (isLazy : Bool)
    (places : List Place) : List Place :=
  (places.foldl (explore step most.isSome isLazy (most.getD length)) Found.empty).toList

end Steps

/-- Where matches that begin at any of `places` can end, those of earlier places first. -/
def ends (text : Array Char) : Pattern → (places : List Place) → List Place
  | empty, places => places
  | one set, places =>
    (places.filter fun place => text[place.position]?.any set.contains).map (·.advance 1)
  | edge kind, places => places.filter fun place => kind.isAt text place.position
  | seq first second, places => ends text second (ends text first places)
  | either first second, places =>
    distinct (places.flatMap fun place => ends text first [place] ++ ends text second [place])
  | repeated body least most isLazy, places =>
    closure (ends text body) text.size (most.map (· - least)) isLazy
      (iterate (ends text body) least places)
  | preferred body, places =>
    distinct (places.flatMap fun place => (ends text body [place]).head?.toList)
  | group number body, places =>
    distinct (places.flatMap fun place =>
      (ends text body [place]).map (·.remember number place.position))
  | echo number isCaseless, places =>
    let key := if isCaseless then Text.foldCase else id
    distinct (places.filterMap fun place => do
      let word ← place.matched? text number
      let finish := place.position + word.length
      if ((text.extract place.position finish).toList).map key == word.map key then
        return place.advance word.length
      else none)
  | look isBehind isNegated body, places =>
    distinct (places.filterMap fun place =>
      let found :=
        if isBehind then
          (List.range (place.position + 1)).findSome? fun start =>
            (ends text body [⟨start, place.groups⟩]).find? (·.position == place.position)
        else (ends text body [place]).head?
      match found with
      | none => if isNegated then some place else none
      | some other => if isNegated then none else some { other with position := place.position })

/-- Whether a match begins anywhere in the text. -/
def fits (pattern : Pattern) (text : String) : Bool :=
  let chars := text.toList.toArray
  !(pattern.ends chars ((List.range (chars.size + 1)).map Place.ofPosition)).isEmpty

end Pattern

end WireCodecs
