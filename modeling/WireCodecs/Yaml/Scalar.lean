import WireCodecs.Yaml.Cursor

/-! Scalars of YAML text: plain, quoted, literal and folded. White space between words is kept on a
line; between lines a single break becomes a space, and further breaks stand for themselves. Only
block scalars decide about their breaks by their header. -/

namespace WireCodecs.Yaml

inductive ScalarStyle where
  | plain
  | singleQuoted
  | doubleQuoted
  | literal
  | folded
  deriving DecidableEq, Repr

/-- White space between two words of a plain or quoted scalar. -/
structure Gap where
  /-- The blanks, as long as there is no break. -/
  blanks : List Char
  firstBreak : List Char
  otherBreaks : List Char
  isBroken : Bool

namespace Gap

/-- What a gap stands for. -/
def text (gap : Gap) : List Char :=
  if gap.isBroken then
    if gap.firstBreak = ['\n'] then
      if gap.otherBreaks.isEmpty then [' '] else gap.otherBreaks
    else gap.firstBreak ++ gap.otherBreaks
  else gap.blanks

/-- Reads on in a gap. After a break no tab may stand left of the column `indent`. -/
def read? (indent : Int) (fuel : Nat) (gap : Gap) (cursor : Cursor) : Option (Gap × Cursor) :=
  match fuel, cursor.peek? with
  | fuel + 1, some c =>
    if isInlineSpace c then
      if gap.isBroken && c == '\t' && (cursor.column : Int) < indent then none
      else
        let gap := if gap.isBroken then gap else { gap with blanks := gap.blanks ++ [c] }
        read? indent fuel gap cursor.skip
    else if isBreak c then
      let (lineBreak, cursor) := cursor.takeBreak
      let gap :=
        if gap.isBroken then { gap with otherBreaks := gap.otherBreaks ++ lineBreak }
        else ⟨[], lineBreak, [], true⟩
      read? indent fuel gap cursor
    else some (gap, cursor)
  | _, _ => some (gap, cursor)

end Gap

/-- The gap at a cursor; `isBroken` says that a break has been read already. -/
def gapAt? (indent : Int) (isBroken : Bool) (cursor : Cursor) : Option (Gap × Cursor) :=
  Gap.read? indent cursor.rest.length ⟨[], [], [], isBroken⟩ cursor

section Quoted

def isHexDigit (c : Char) : Bool :=
  c.isDigit || ('a' ≤ c && c ≤ 'f') || ('A' ≤ c && c ≤ 'F')

def hexValue (c : Char) : Nat :=
  if c.isDigit then c.toNat - 48 else if 'a' ≤ c then c.toNat - 87 else c.toNat - 55

def hexNumber (digits : List Char) : Nat := digits.foldl (fun n c => n * 16 + hexValue c) 0

/-- The character of an escape with one letter. -/
def letterEscape? : Char → Option Char
  | '0' => some '\x00'
  | 'a' => some '\x07'
  | 'b' => some '\x08'
  | 't' | '\t' => some '\t'
  | 'n' => some '\n'
  | 'v' => some '\x0b'
  | 'f' => some '\x0c'
  | 'r' => some '\r'
  | 'e' => some '\x1b'
  | ' ' => some ' '
  | '"' => some '"'
  | '/' => some '/'
  | '\\' => some '\\'
  | 'N' => some '\x85'
  | '_' => some '\xa0'
  | 'L' => some '\u2028'
  | 'P' => some '\u2029'
  | _ => none

/-- The number of hexadecimal digits of an escape that takes some. -/
def escapeLength? : Char → Option Nat
  | 'x' => some 2
  | 'u' => some 4
  | 'U' => some 8
  | _ => none

/-- The character with a code point, if there is one. -/
def charOfCode? (code : Nat) : Option Char :=
  if code.isValidChar then some (Char.ofNat code) else none

/-- Reads an escape after its backslash. -/
def readEscape? (cursor : Cursor) : Option (Char × Cursor) := do
  let letter ← cursor.peek?
  match escapeLength? letter with
  | none => return (← letterEscape? letter, cursor.skip)
  | some length =>
    let digits := (cursor.skip.rest.take length).takeWhile isHexDigit
    if digits.length = length then
      return (← charOfCode? (hexNumber digits), cursor.skipCount (length + 1))
    else none

/-- A word of a quoted scalar, reversed, and whether an escaped break ended it. Otherwise it ends
before white space, the closing quote or the end of the text. -/
def readQuotedWord? (isSingle : Bool) (fuel : Nat) (word : List Char) (cursor : Cursor) :
    Option (List Char × Bool × Cursor) :=
  match fuel, cursor.peek? with
  | fuel + 1, some c =>
    if endsWord (some c) then some (word, false, cursor)
    else if isSingle then
      if c != '\'' then readQuotedWord? isSingle fuel (c :: word) cursor.skip
      else if cursor.peekAt? 1 == some '\'' then
        readQuotedWord? isSingle fuel (c :: word) (cursor.skipCount 2)
      else some (word, false, cursor)
    else if c == '"' then some (word, false, cursor)
    else if c == '\\' then
      if cursor.skip.atBreak then some (word, true, cursor.skip.skipBreak)
      else do
        let (escaped, cursor) ← readEscape? cursor.skip
        readQuotedWord? isSingle fuel (escaped :: word) cursor
    else readQuotedWord? isSingle fuel (c :: word) cursor.skip
  | _, _ => some (word, false, cursor)

/-- The rest of a quoted scalar, with `text` before it reversed. -/
def readQuotedWords? (isSingle : Bool) (fuel : Nat) (text : List Char) (cursor : Cursor) :
    Option (List Char × Cursor) :=
  match fuel with
  | 0 => none
  | fuel + 1 => do
    if cursor.atDocumentMarker || cursor.rest.isEmpty then none
    let (text, isBroken, cursor) ← readQuotedWord? isSingle cursor.rest.length text cursor
    if cursor.isAt (if isSingle then '\'' else '"') then some (text, cursor.skip)
    else
      let (gap, cursor) ← gapAt? 0 isBroken cursor
      readQuotedWords? isSingle fuel (gap.text.reverse ++ text) cursor

/-- A quoted scalar from its opening quote on. -/
def readQuoted? (isSingle : Bool) (cursor : Cursor) : Option (String × Cursor) := do
  let (text, cursor) ← readQuotedWords? isSingle (cursor.rest.length + 1) [] cursor.skip
  return (String.ofList text.reverse, cursor)

end Quoted

section Plain

def isFlowBracket (c : Char) : Bool := c == '[' || c == ']' || c == '\x7b' || c == '\x7d'

/-- A word of a plain scalar, reversed. In a flow collection a colon may not stand before what else
would end the scalar there. -/
def readPlainWord? (inFlow : Bool) (fuel : Nat) (word : List Char) (cursor : Cursor) :
    Option (List Char × Cursor) :=
  match fuel, cursor.peek? with
  | fuel + 1, some c =>
    let next := cursor.peekAt? 1
    if endsWord (some c) then some (word, cursor)
    else if inFlow && c == ':' && next.any (fun n => n == ',' || n == '?' || isFlowBracket n) then
      none
    else if (c == ':' && endsWord next) || (inFlow && (c == ',' || isFlowBracket c)) then
      some (word, cursor)
    else readPlainWord? inFlow fuel (c :: word) cursor.skip
  | _, _ => some (word, cursor)

/-- The rest of a plain scalar after a gap, with `text` before it reversed, and whether the gap
behind the scalar has a break in it. -/
def readPlainWords? (inFlow : Bool) (indent : Int) (fuel : Nat) (text : List Char) (gap : Gap)
    (cursor : Cursor) : Option (List Char × Bool × Cursor) :=
  match fuel with
  | 0 => none
  | fuel + 1 => do
    if cursor.atDocumentMarker || cursor.isAt '#' then return (text, gap.isBroken, cursor)
    let (word, cursor) ← readPlainWord? inFlow cursor.rest.length [] cursor
    if word.isEmpty then return (text, gap.isBroken, cursor)
    let text := word ++ gap.text.reverse ++ text
    if cursor.peek?.any fun c => isInlineSpace c || isBreak c then
      let (gap, cursor) ← gapAt? indent false cursor
      if !inFlow && (cursor.column : Int) < indent then return (text, gap.isBroken, cursor)
      readPlainWords? inFlow indent fuel text gap cursor
    else return (text, false, cursor)

/-- A plain scalar whose further lines are at the column `indent` or right of it, and whether a
break follows it. -/
def readPlain? (inFlow : Bool) (indent : Int) (cursor : Cursor) :
    Option (String × Bool × Cursor) := do
  let (text, isBroken, cursor) ←
    readPlainWords? inFlow indent (cursor.rest.length + 1) [] ⟨[], [], [], false⟩ cursor
  return (String.ofList text.reverse, isBroken, cursor)

end Plain

section Block

/-- Which breaks at the end of a block scalar are kept. -/
inductive Chomping where
  | strip
  | clip
  | keep
  deriving DecidableEq, Repr

def chomping? : Option Char → Option Chomping
  | some '+' => some .keep
  | some '-' => some .strip
  | _ => none

/-- An indentation indicator, which is not zero; 0 if there is none. -/
def readIncrement? (cursor : Cursor) : Option (Nat × Cursor) :=
  match cursor.peek? with
  | some c =>
    if c == '0' then none
    else if c.isDigit then some (c.toNat - 48, cursor.skip)
    else some (0, cursor)
  | none => some (0, cursor)

/-- The chomping and the indentation indicator in either order, and the rest of their line. -/
def readBlockHeader? (cursor : Cursor) : Option (Chomping × Nat × Cursor) := do
  let (chomping, increment, cursor) ←
    match chomping? cursor.peek? with
    | some chomping => do
      let (increment, cursor) ← readIncrement? cursor.skip
      pure (chomping, increment, cursor)
    | none => do
      let (increment, cursor) ← readIncrement? cursor
      match increment, chomping? cursor.peek? with
      | _ + 1, some chomping => pure (chomping, increment, cursor.skip)
      | _, _ => pure (.clip, increment, cursor)
  let cursor := (cursor.skipWhile isInlineSpace).skipComment
  if cursor.rest.isEmpty || cursor.atBreak then return (chomping, increment, cursor.skipBreak)
  else none

/-- Reads breaks and indentation up to the column `indent`, which is not known yet if it is 0. The
result has the breaks and the greatest column seen. No tab may stand in the indentation. -/
def readBlockBreaks? (indent : Nat) (fuel : Nat) (breaks : List Char) (widest : Nat)
    (cursor : Cursor) : Option (List Char × Nat × Cursor) :=
  match fuel with
  | 0 => none
  | fuel + 1 =>
    let spaces := (cursor.rest.takeWhile (· == ' ')).length
    let cursor :=
      cursor.skipCount (if indent = 0 then spaces else min spaces (indent - cursor.column))
    let widest := max widest cursor.column
    if (indent == 0 || cursor.column < indent) && cursor.isAt '\t' then none
    else if cursor.atBreak then
      let (lineBreak, cursor) := cursor.takeBreak
      readBlockBreaks? indent fuel (breaks ++ lineBreak) widest cursor
    else some (breaks, widest, cursor)

def blockBreaksAt? (indent : Nat) (cursor : Cursor) : Option (List Char × Nat × Cursor) :=
  readBlockBreaks? indent (cursor.rest.length + 1) [] 0 cursor

/-- The lines of a block scalar that are left, after `text` reversed. `lastBreak` ended the line
before, `breaks` are those of empty lines since then, and `wasBlank` tells whether that line starts
with a blank. The result has the breaks at the end apart. -/
def readBlockLines? (isFolded : Bool) (indent : Nat) (fuel : Nat)
    (text lastBreak breaks : List Char) (wasBlank : Bool) (cursor : Cursor) :
    Option (List Char × List Char × List Char × Cursor) :=
  match fuel with
  | 0 => none
  | fuel + 1 =>
    if cursor.column = indent && !cursor.rest.isEmpty then do
      let isBlank := cursor.peek?.any isInlineSpace
      let joint :=
        if isFolded && lastBreak == ['\n'] && !wasBlank && !isBlank then
          if breaks.isEmpty then [' '] else breaks
        else lastBreak ++ breaks
      let (line, cursor) := cursor.takeWhile (!isBreak ·)
      let (lastBreak, cursor) := cursor.takeBreak
      let (breaks, _, cursor) ← blockBreaksAt? indent cursor
      readBlockLines? isFolded indent fuel (line.reverse ++ joint.reverse ++ text) lastBreak breaks
        isBlank cursor
    else some (text, lastBreak, breaks, cursor)

/-- A block scalar from its indicator on, in a collection at the column `parent`. -/
def readBlock? (isFolded : Bool) (parent : Int) (cursor : Cursor) : Option (String × Cursor) := do
  let (chomping, increment, cursor) ← readBlockHeader? cursor.skip
  let given := if increment = 0 then 0 else (max parent 0).toNat + increment
  let (breaks, widest, cursor) ← blockBreaksAt? given cursor
  let indent := if given = 0 then max (max widest (parent + 1).toNat) 1 else given
  let (text, lastBreak, breaks, cursor) ←
    readBlockLines? isFolded indent (cursor.rest.length + 1) [] [] breaks false cursor
  let tail :=
    match chomping with
    | .strip => []
    | .clip => lastBreak
    | .keep => lastBreak ++ breaks
  return (String.ofList (text.reverse ++ tail), cursor)

end Block

end WireCodecs.Yaml
