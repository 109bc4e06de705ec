import WireCodecs.Schema.Pattern.Escape

/-! Sets of characters in brackets: characters, ranges, escapes, sets in further brackets, and what
operators make of them. Brackets in a set are counted even where they stand for themselves, so they
have to be paired unless they are escaped. -/

namespace WireCodecs.Pattern

inductive SetOperator where
  | inter
  | difference
  | symmetricDifference
  deriving DecidableEq, Repr

/-- The set that an operator makes of two sets. -/
def SetOperator.apply (operator : SetOperator) (isCaseless : Bool) (first second : CharSet) :
    CharSet :=
  let first := CharSet.close isCaseless false first
  let second := CharSet.close isCaseless false second
  match operator with
  | inter => .inter first second
  | difference => .difference first second
  | symmetricDifference => .symmetricDifference first second

section Members

/-- A character or an escape in brackets. -/
def readMember? (grammar : Grammar) (isCaseless : Bool) (text : List Char) :
    Option (Escape × List Char) :=
  match grammar, text with
  | .free, '\\' :: 'b' :: rest => some (.char '\x08', rest)
  | _, '\\' :: rest => readEscape? grammar isCaseless rest
  | _, c :: rest => some (.char c, rest)
  | _, [] => none

/-- A character, a range of characters or a set that an escape stands for. No range starts at a
hyphen before the end of the set or before another hyphen. -/
def readRange? (grammar : Grammar) (isCaseless : Bool) (text : List Char) :
    Option (CharSet × List Char) := do
  let (first, rest) ← readMember? grammar isCaseless text
  match rest with
  | '-' :: next :: after =>
    if next == ']' || next == '-' then single first rest
    else
      match first, ← readMember? grammar isCaseless (next :: after) with
      | .char first, (.char last, rest) =>
        if first ≤ last then return (.between first last, rest) else none
      | _, _ => none
  | rest => single first rest
where
  /-- The set of one member. -/
  single (member : Escape) (rest : List Char) : Option (CharSet × List Char) :=
    match member with
    | .char c => some (.single c, rest)
    | .set set => some (set, rest)
    | _ => none

/-- A class by its name between colons, behind the opening bracket. -/
def readNamedClass? (isCaseless : Bool) (text : List Char) : Option (CharSet × List Char) :=
  match text with
  | ':' :: rest => do
    let (isNegated, rest) := match rest with
      | '^' :: rest => (true, rest)
      | rest => (false, rest)
    let (name, rest) ← readUpTo? ':' rest
    let set ← CharClass.named? (String.ofList name)
    match rest with
    | ']' :: rest => return (.close isCaseless isNegated set, rest)
    | _ => none
  | _ => none

end Members

mutual

/-- A set behind its opening bracket. Hyphens stand for themselves at its start, and so does a
closing bracket. -/
def readSet? (grammar : Grammar) (isCaseless : Bool) (fuel : Nat) (text : List Char) :
    Option (CharSet × List Char) :=
  match fuel with
  | 0 => none
  | fuel + 1 => do
    let (isNegated, text) := match text with
      | '^' :: rest => (true, rest)
      | text => (false, text)
    let (start, text) := match text, text.dropWhile (· == '-') with
      | ']' :: rest, _ => (.single ']', rest)
      | '-' :: _, rest => (.single '-', rest)
      | text, _ => (.empty, text)
    let (set, rest) ← readMembers? grammar isCaseless fuel none start text
    return (.close isCaseless isNegated set, rest)

/-- The members up to the closing bracket, where `set` are those since the last operator, and
`pending` is that operator with what it stands behind. -/
def readMembers? (grammar : Grammar) (isCaseless : Bool) (fuel : Nat)
    (pending : Option (CharSet × SetOperator)) (set : CharSet) (text : List Char) :
    Option (CharSet × List Char) :=
  match fuel with
  | 0 => none
  | fuel + 1 =>
    let whole := match pending with
      | none => set
      | some (first, operator) => operator.apply isCaseless first set
    match text with
    | [] => none
    | ']' :: rest => some (whole, rest)
    | '&' :: '&' :: rest =>
      readMembers? grammar isCaseless fuel (some (whole, .inter)) .empty rest
    | '-' :: '-' :: rest =>
      readMembers? grammar isCaseless fuel (some (whole, .difference)) .empty rest
    | '~' :: '~' :: rest =>
      readMembers? grammar isCaseless fuel (some (whole, .symmetricDifference)) .empty rest
    | '[' :: rest => do
      let (inner, rest) ←
        (readNamedClass? isCaseless rest).or (readSet? grammar isCaseless fuel rest)
      readMembers? grammar isCaseless fuel pending (.union set inner) rest
    | text => do
      let (range, rest) ← readRange? grammar isCaseless text
      readMembers? grammar isCaseless fuel pending (.union set range) rest

end

section Pairs

/-- The text behind the bracket that closes a set, by counting; `depth` sets are open around it. -/
def behindPair? (depth : Nat) : List Char → Option (List Char)
  | [] => none
  | '\\' :: _ :: rest => behindPair? depth rest
  | '[' :: rest => behindPair? (depth + 1) rest
  | ']' :: rest => if depth = 0 then some rest else behindPair? (depth - 1) rest
  | _ :: rest => behindPair? depth rest

/-- The text behind a set by counting its brackets, but for a closing one at its start. -/
def behindSet? (text : List Char) : Option (List Char) :=
  let text := match text with
    | '^' :: rest => rest
    | text => text
  match text with
  | ']' :: rest => behindPair? 0 rest
  | text => behindPair? 0 text

end Pairs

/-- A set in brackets, behind the opening one. By counting the brackets it may not end earlier. -/
def readBracket? (grammar : Grammar) (isCaseless : Bool) (text : List Char) :
    Option (CharSet × List Char) := do
  let (set, rest) ← readSet? grammar isCaseless (2 * text.length + 2) text
  if rest.length < (← behindSet? text).length then none else return (set, rest)

end WireCodecs.Pattern
