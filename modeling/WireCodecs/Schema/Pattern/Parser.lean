import WireCodecs.Schema.Pattern.Scan

/-! Reading patterns: alternatives of pieces, which may be repeated, in groups and with flags. A
pattern is read by the strict grammar up to the first look-around, and if there is one, all of it is
read by the free grammar. -/

namespace WireCodecs.Pattern

open ScanM

section Groups

/-- The flags of a group up to the mark behind them, which is read too. Every letter stands only
once, and one at least behind the hyphen. -/
def readFlags? (fuel : Nat) (letters : List Char) (flags : Flags) (text : List Char) :
    Option (Flags × Char × List Char) :=
  match fuel, text with
  | fuel + 1, c :: rest =>
    if c == ':' || (c == ')' && !letters.isEmpty) then
      if letters.head? == some '-' then none else some (flags, c, rest)
    else if letters.contains c then none
    else if c == '-' then readFlags? fuel (c :: letters) flags rest
    else do readFlags? fuel (c :: letters) (← flags.set? (!letters.contains '-') c) rest
  | _, _ => none

/-- A further group. -/
def openGroup : ScanM Nat := do
  let scan ← get
  set { scan with groups := scan.groups + 1 }
  return scan.groups + 1

/-- The name of a group, behind the pointed bracket. -/
def readNewName (grammar : Grammar) (number : Nat) (text : List Char) : ScanM Unit := do
  let (name, after) ← ofOption (readUpTo? '>' text)
  let scan ← get
  let isNew := (scan.names.lookup (String.ofList name)).isNone
  if name.isEmpty || !name.all isNameChar || name.head?.any Char.isDigit ||
      (grammar == .strict && !isNew) then malformed
  set { scan with rest := after, names := (String.ofList name, number) :: scan.names }

/-- The number of a group that has been named. -/
def numberOf (name : GroupName) : ScanM Nat := do
  let scan ← get
  match name with
  | .number number => return number
  | .back count => if scan.groups < count then malformed else return scan.groups + 1 - count
  | .name name => ofOption (scan.names.lookup name)

/-- How deep groups can be nested. -/
def maxDepth : Nat := 63

end Groups

section Pieces

/-- One pattern behind another. -/
def append (first second : Pattern) : Pattern :=
  if first = empty then second else if second = empty then first else seq first second

def literal (flags : Flags) (c : Char) : Pattern := one (.close flags.isCaseless false (.single c))

/-- An escape as a piece of its own. -/
def readEscapePiece (grammar : Grammar) : ScanM Pattern := do
  let flags ← flags
  let text ← rest
  if grammar = .strict && text.head? = some 'a' then malformed
  let (escape, after) ← ofOption (readEscape? grammar flags.isCaseless text)
  setRest after
  match escape with
  | .char c => return literal flags c
  | .set set => return one set
  | .edge kind => return edge kind
  | .echo name => return echo (← numberOf name) flags.isCaseless
  | .nothing => return look false false empty

/-- A piece that is no group. `isRepeatable` says that something stands before that a quantifier can
be about. -/
def readSimplePiece (grammar : Grammar) (isRepeatable : Bool) (c : Char) (after : List Char) :
    ScanM Pattern := do
  let flags ← flags
  if c = '\x7b' && grammar = .strict && !(isRepeatable && startsQuantifier (c :: after)) then
    malformed
  setRest after
  match c with
  | '*' | '+' | '?' => malformed
  | '.' => return one (if flags.dotsFeeds then .any else .notLineFeed)
  | '^' => return edge (if flags.isMultiline then .lineStart else .start)
  | '$' => return edge (if flags.isMultiline then .lineFinish else .finish)
  | '\\' => readEscapePiece grammar
  | '[' =>
    let (set, after) ← ofOption (readBracket? grammar flags.isCaseless after)
    setRest after
    return one set
  | c => return literal flags c

end Pieces

mutual

/-- Alternatives up to a closing parenthesis or the end of the text. -/
def readAlternatives (grammar : Grammar) (fuel depth : Nat) : ScanM Pattern :=
  match fuel with
  | 0 => malformed
  | fuel + 1 => do
    let first ← readSequence grammar fuel depth false empty
    if ← accept '|' then return either first (← readAlternatives grammar fuel depth)
    else return first

/-- The pieces behind `read` up to the end of an alternative. -/
def readSequence (grammar : Grammar) (fuel depth : Nat) (isRepeatable : Bool) (read : Pattern) :
    ScanM Pattern :=
  match fuel with
  | 0 => malformed
  | fuel + 1 => do
    skipBlanks grammar
    match ← rest with
    | [] | '|' :: _ | ')' :: _ => return read
    | c :: after =>
      let piece ←
        if c = '(' then do
          setRest after
          readGroup grammar fuel (depth + 1)
        else readSimplePiece grammar isRepeatable c after
      skipBlanks grammar
      let piece ← readQuantified grammar piece
      readSequence grammar fuel depth (piece != empty) (append read piece)

/-- A group, behind its opening parenthesis. -/
def readGroup (grammar : Grammar) (fuel depth : Nat) : ScanM Pattern :=
  match fuel with
  | 0 => malformed
  | fuel + 1 => do
    if maxDepth < depth then malformed
    skipBlanks grammar
    match grammar, ← rest with
    | .strict, '?' :: '=' :: _ | .strict, '?' :: '!' :: _ | .strict, '?' :: '<' :: '=' :: _
    | .strict, '?' :: '<' :: '!' :: _ => throw .lookAround
    | .free, '?' :: '=' :: after => look false false <$> readBody grammar fuel depth after
    | .free, '?' :: '!' :: after => look false true <$> readBody grammar fuel depth after
    | .free, '?' :: '<' :: '=' :: after => look true false <$> readBody grammar fuel depth after
    | .free, '?' :: '<' :: '!' :: after => look true true <$> readBody grammar fuel depth after
    | .free, '?' :: '>' :: after => preferred <$> readBody grammar fuel depth after
    | .free, '?' :: 'P' :: '=' :: after =>
      let (name, after) ← ofOption (readUpTo? ')' after)
      setRest after
      return echo (← numberOf (.name (String.ofList name))) (← flags).isCaseless
    | _, '?' :: 'P' :: '<' :: after | _, '?' :: '<' :: after =>
      let number ← openGroup
      readNewName grammar number after
      group number <$> readBody grammar fuel depth (← rest)
    | _, '?' :: after =>
      let outer ← flags
      let (inner, mark, after) ← ofOption (readFlags? (after.length + 1) [] outer after)
      setFlags inner
      if mark = ')' then
        setRest after
        return empty
      let body ← readBody grammar fuel depth after
      setFlags outer
      return body
    | _, after =>
      let number ← openGroup
      group number <$> readBody grammar fuel depth after

/-- The alternatives of a group with the closing parenthesis. Flags that are set in them end
there. -/
def readBody (grammar : Grammar) (fuel depth : Nat) (text : List Char) : ScanM Pattern :=
  match fuel with
  | 0 => malformed
  | fuel + 1 => do
    setRest text
    let outer ← flags
    let body ← readAlternatives grammar fuel depth
    setFlags outer
    if ← accept ')' then return body else malformed

end

section Whole

/-- The numbers of the groups that are echoed. -/
def echoes : Pattern → List Nat
  | empty | one _ | edge _ => []
  | seq first second | either first second => first.echoes ++ second.echoes
  | repeated body _ _ _ | preferred body | group _ body | look _ _ body => body.echoes
  | echo number _ => [number]

/-- A pattern without its groups, which make no difference if none is echoed. -/
def withoutGroups : Pattern → Pattern
  | empty => empty
  | one set => one set
  | edge kind => edge kind
  | seq first second => seq first.withoutGroups second.withoutGroups
  | either first second => either first.withoutGroups second.withoutGroups
  | repeated body least most isLazy => repeated body.withoutGroups least most isLazy
  | preferred body => preferred body.withoutGroups
  | group _ body => body.withoutGroups
  | echo number isCaseless => echo number isCaseless
  | look isBehind isNegated body => look isBehind isNegated body.withoutGroups

/-- The bytes that an automaton for a pattern takes, nearly, where all that is repeated is there as
often as it must or may be matched. -/
def size : Pattern → Nat
  | empty | edge _ | echo _ _ => 32
  | one set =>
    match set with
    | .ranges [range] => if range.first = range.last then 32 else set.size
    | set => set.size
  | seq first second => first.size + second.size
  | either first second => first.size + second.size + 36
  | repeated body least most _ =>
    match most with
    | some most => least * body.size + (most - least) * (body.size + 40) + 32
    | none => max least 1 * body.size + 40
  | preferred body | look _ _ body => body.size + 32
  | group _ body => body.size + 64

/-- The size of the largest pattern that can be used. -/
def maxSize : Nat := 10485760

/-- A whole text as a pattern. Only groups that are there can be echoed. -/
def readWhole (grammar : Grammar) (text : List Char) : Except Halt Pattern := do
  let (pattern, scan) ←
    (readAlternatives grammar (5 * text.length + 5) 0).run ⟨text, .standard, 0, []⟩
  let echoes := pattern.echoes
  if !scan.rest.isEmpty || maxSize < pattern.size ||
      !echoes.all fun number => 0 < number && number ≤ scan.groups then throw .malformed
  return if echoes.isEmpty then pattern.withoutGroups else pattern

/-- The pattern that a text writes. -/
def parse? (text : String) : Option Pattern :=
  match readWhole .strict text.toList with
  | .ok pattern => some pattern
  | .error .malformed => none
  | .error .lookAround => (readWhole .free text.toList).toOption

end Whole

end WireCodecs.Pattern
