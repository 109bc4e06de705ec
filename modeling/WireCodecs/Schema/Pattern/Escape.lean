import WireCodecs.Schema.Pattern

/-! What stands behind a backslash in a pattern. The strict grammar is that of patterns without
look-around; in the free grammar classes of characters are wide, and groups can be echoed. -/

namespace WireCodecs.Pattern

inductive Grammar where
  | strict
  | free
  deriving DecidableEq, Repr

/-- How a pattern names a group. -/
inductive GroupName where
  | number (number : Nat)
  /-- Counted back from the groups so far. -/
  | back (count : Nat)
  | name (name : String)
  deriving DecidableEq, Repr

/-- What an escape stands for. -/
inductive Escape where
  | char (c : Char)
  | set (set : CharSet)
  | edge (kind : Edge)
  | echo (group : GroupName)
  /-- Matches everywhere. -/
  | nothing
  deriving DecidableEq, Repr

section Numbers

def hexDigit? (c : Char) : Option Nat :=
  if c.isDigit then some (c.toNat - 48)
  else if 'a' ≤ c && c ≤ 'f' then some (c.toNat - 87)
  else if 'A' ≤ c && c ≤ 'F' then some (c.toNat - 55)
  else none

def hexValue? (digits : List Char) : Option Nat :=
  if digits.isEmpty then none
  else digits.foldlM (fun n c => (n * 16 + ·) <$> hexDigit? c) 0

def decimal? (digits : List Char) : Option Nat :=
  if digits.isEmpty || !digits.all Char.isDigit then none
  else some (digits.foldl (fun n c => n * 10 + (c.toNat - 48)) 0)

def charOfCode? (code : Nat) : Option Char :=
  if code.isValidChar then some (Char.ofNat code) else none

/-- The text up to a closing mark, and the text behind it. -/
def readUpTo? (close : Char) (text : List Char) : Option (List Char × List Char) :=
  match text.dropWhile (· != close) with
  | _ :: rest => some (text.takeWhile (· != close), rest)
  | [] => none

/-- The character with a code point of at most eight digits in braces, or of exactly `length` digits
without. -/
def readCode? (length : Nat) (text : List Char) : Option (Char × List Char) :=
  match text with
  | '\x7b' :: rest => do
    let (digits, rest) ← readUpTo? '\x7d' rest
    if 8 < digits.length then none
    return (← charOfCode? (← hexValue? digits), rest)
  | text => do
    let digits := text.take length
    if digits.length != length then none
    return (← charOfCode? (← hexValue? digits), text.drop length)

end Numbers

section Properties

/-- A text cut at the first place where a mark stands in it. -/
def cutAt? (mark : List Char) : List Char → Option (List Char × List Char)
  | [] => none
  | c :: rest =>
    if mark.isPrefixOf (c :: rest) then some ([], (c :: rest).drop mark.length)
    else (cutAt? mark rest).map fun (before, after) => (c :: before, after)

/-- The characters with a property, whose value may be written behind its name. -/
def propertySet? (isCaseless isNegated : Bool) (text : List Char) : Option CharSet :=
  let close (isNegated : Bool) (ranges : List Text.CodeRange) :=
    CharSet.close isCaseless isNegated (.ranges ranges)
  match cutAt? ['!', '='] text, (cutAt? [':'] text).or (cutAt? ['='] text) with
  | some (name, value), _ => (Text.rangesValued? name value).map (close !isNegated)
  | none, some (name, value) => (Text.rangesValued? name value).map (close isNegated)
  | none, none => (Text.rangesNamed? text).map (close isNegated)

/-- The property behind its letter: one character, or a text in braces. -/
def readProperty? (isCaseless isNegated : Bool) (text : List Char) : Option (CharSet × List Char) :=
  match text with
  | '\x7b' :: rest => do
    let (name, rest) ← readUpTo? '\x7d' rest
    return (← propertySet? isCaseless isNegated name, rest)
  | '\\' :: _ | [] => none
  | c :: rest => do
    return (← propertySet? isCaseless isNegated [c], rest)

end Properties

section Classes

def charClass? : Char → Option CharClass
  | 'd' | 'D' => some .digit
  | 'w' | 'W' => some .word
  | 's' | 'S' => some .space
  | _ => none

/-- The set that a letter for a class stands for; a capital letter negates. -/
def classSet (grammar : Grammar) (isCaseless : Bool) (letter : Char) (kind : CharClass) : CharSet :=
  match grammar with
  | .strict => .close isCaseless letter.isUpper kind.narrow
  | .free => .close false letter.isUpper kind.wide

end Classes

section Groups

/-- The characters of the names of groups. -/
def isNameChar (c : Char) : Bool :=
  c == '_' ||
    if c.toNat < 0x80 then c.isAlphanum
    else Text.isInRanges (Text.alphabeticRanges ++ Text.rangesOfCategories ["N"]) c

def groupName? (text : List Char) : Option GroupName :=
  match text with
  | '-' :: digits => (decimal? digits).map .back
  | text =>
    match decimal? text with
    | some number => some (.number number)
    | none =>
      if !text.isEmpty && text.all isNameChar then some (.name (String.ofList text)) else none

/-- A group in pointed brackets or between quotes. -/
def readGroupName? (text : List Char) : Option (GroupName × List Char) :=
  match text with
  | '<' :: rest => do
    let (name, rest) ← readUpTo? '>' rest
    return (← groupName? name, rest)
  | '\'' :: rest => do
    let (name, rest) ← readUpTo? '\'' rest
    return (← groupName? name, rest)
  | _ => none

end Groups

section Letters

/-- The control characters that have a letter. -/
def controlChar? : Char → Option Char
  | 'a' => some '\x07'
  | 'f' => some '\x0c'
  | 'n' => some '\n'
  | 'r' => some '\r'
  | 't' => some '\t'
  | 'v' => some '\x0b'
  | _ => none

/-- The number of digits of a code point without braces. -/
def codeLength? : Char → Option Nat
  | 'x' => some 2
  | 'u' => some 4
  | 'U' => some 8
  | _ => none

def edge? : Char → Option Edge
  | 'A' => some .start
  | 'z' => some .finish
  | '<' => some .wordStart
  | '>' => some .wordFinish
  | _ => none

/-- An edge of words, whose name may stand in braces. -/
def readWordEdge? (text : List Char) : Option (Edge × List Char) :=
  match text with
  | '\x7b' :: rest => do
    let (name, rest) ← readUpTo? '\x7d' rest
    match String.ofList name with
    | "start" => return (.wordStart, rest)
    | "end" => return (.wordFinish, rest)
    | "start-half" => return (.afterNoWord, rest)
    | "end-half" => return (.beforeNoWord, rest)
    | _ => none
  | text => some (.word, text)

/-- The escapes that only the strict grammar has: control characters by letters, and all ASCII
characters but letters, digits and pointed brackets. -/
def readStrictEscape? (text : List Char) : Option (Escape × List Char) :=
  match text with
  | 'c' :: letter :: rest =>
    if letter.isAlpha then some (.char (Char.ofNat (letter.toNat % 32)), rest) else none
  | c :: rest => if c.toNat < 0x80 && !c.isAlphanum then some (.char c, rest) else none
  | [] => none

/-- The escapes that only the free grammar has. -/
def readFreeEscape? (text : List Char) : Option (Escape × List Char) :=
  match text with
  | 'e' :: rest => some (.char '\x1b', rest)
  | 'h' :: rest => some (.set hexDigits, rest)
  | 'H' :: rest => some (.set (.complement hexDigits), rest)
  | 'Z' :: rest => some (.edge .finishOfLines, rest)
  | 'G' :: rest => some (.edge .start, rest)
  | 'K' :: rest => some (.nothing, rest)
  | 'k' :: rest => (readGroupName? rest).map fun (name, rest) => (.echo name, rest)
  | c :: rest =>
    if c.isDigit then do
      let digits := text.takeWhile Char.isDigit
      return (.echo (.number (← decimal? digits)), text.drop digits.length)
    else if c.isAlpha then none
    else some (.char c, rest)
  | [] => none
where
  hexDigits : CharSet := .ranges [.between '0' '9', .between 'A' 'F', .between 'a' 'f']

end Letters

/-- What an escape stands for, behind its backslash. -/
def readEscape? (grammar : Grammar) (isCaseless : Bool) (text : List Char) :
    Option (Escape × List Char) :=
  match text with
  | [] => none
  | 'p' :: rest => (readProperty? isCaseless false rest).map fun (set, rest) => (.set set, rest)
  | 'P' :: rest => (readProperty? isCaseless true rest).map fun (set, rest) => (.set set, rest)
  | 'b' :: rest => (readWordEdge? rest).map fun (kind, rest) => (.edge kind, rest)
  | 'B' :: rest => if rest.head? == some '\x7b' then none else some (.edge .noWord, rest)
  | c :: rest =>
    match charClass? c, controlChar? c, codeLength? c, edge? c with
    | some kind, _, _, _ => some (.set (classSet grammar isCaseless c kind), rest)
    | _, some c, _, _ => some (.char c, rest)
    | _, _, some length, _ => (readCode? length rest).map fun (c, rest) => (.char c, rest)
    | _, _, _, some kind => some (.edge kind, rest)
    | none, none, none, none =>
      match grammar with
      | .strict => readStrictEscape? text
      | .free => readFreeEscape? text

end WireCodecs.Pattern
