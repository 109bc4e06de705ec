import WireCodecs.Schema.Pattern.Bracket

/-! Scanning the text of a pattern: what is left of it, the flags that are set, and the quantifiers
behind its pieces. -/

namespace WireCodecs.Pattern

/-- What the flags of a pattern change. -/
structure Flags where
  isCaseless : Bool
  /-- Whether lines have edges of their own. -/
  isMultiline : Bool
  /-- Whether the dot stands for line feeds too. -/
  dotsFeeds : Bool
  /-- Whether repetition is lazy unless it is marked. -/
  isLazy : Bool
  /-- Whether blanks and comments between the pieces count for nothing. -/
  isSpaced : Bool
  deriving DecidableEq, Repr

namespace Flags

def standard : Flags := ⟨false, false, false, false, false⟩

/-- Sets the flag that has a letter; the standard meaning of characters cannot be given up. -/
def set? (flags : Flags) (value : Bool) : Char → Option Flags
  | 'i' => some { flags with isCaseless := value }
  | 'm' => some { flags with isMultiline := value }
  | 's' => some { flags with dotsFeeds := value }
  | 'U' => some { flags with isLazy := value }
  | 'x' => some { flags with isSpaced := value }
  | 'u' => if value then some flags else none
  | _ => none

end Flags

/-- Why reading stops early. -/
inductive Halt where
  | malformed
  /-- The strict grammar has no look-around. -/
  | lookAround
  deriving DecidableEq, Repr

/-- What is left to read, and what has been read so far. -/
structure Scan where
  rest : List Char
  flags : Flags
  /-- The number of groups so far. -/
  groups : Nat
  names : List (String × Nat)

abbrev ScanM := StateT Scan (Except Halt)

namespace ScanM

def malformed {α : Type} : ScanM α := throw .malformed

def ofOption {α : Type} : Option α → ScanM α
  | some value => return value
  | none => malformed

def rest : ScanM (List Char) := (·.rest) <$> get

def setRest (rest : List Char) : ScanM Unit := modify fun scan => { scan with rest := rest }

def flags : ScanM Flags := (·.flags) <$> get

def setFlags (flags : Flags) : ScanM Unit := modify fun scan => { scan with flags := flags }

/-- Skips a character, if it is the next one. -/
def accept (c : Char) : ScanM Bool := do
  match ← rest with
  | d :: after =>
    if c == d then setRest after
    return c == d
  | [] => return false

end ScanM

open ScanM

/-- The text behind blanks and comments, where they count for nothing. A comment in parentheses is
one of the free grammar. -/
def dropBlanks? (grammar : Grammar) (isSpaced : Bool) (fuel : Nat) (text : List Char) :
    Option (List Char) :=
  match fuel, text with
  | fuel + 1, '#' :: rest =>
    if isSpaced then dropBlanks? grammar isSpaced fuel ((rest.dropWhile (· != '\n')).drop 1)
    else some text
  | fuel + 1, '(' :: '?' :: '#' :: rest =>
    match grammar with
    | .strict => some text
    | .free => do
      let (_, rest) ← readUpTo? ')' rest
      dropBlanks? grammar isSpaced fuel rest
  | fuel + 1, c :: rest =>
    if isSpaced && [' ', '\t', '\n', '\r'].contains c then dropBlanks? grammar isSpaced fuel rest
    else some text
  | _, _ => some text

def skipBlanks (grammar : Grammar) : ScanM Unit := do
  let text ← rest
  setRest (← ofOption (dropBlanks? grammar (← flags).isSpaced text.length text))

section Quantifiers

/-- The bounds of a quantifier in braces, behind the opening one. With `isOpen` the lower bound may
be left out. -/
def readBounds? (isOpen : Bool) (isBlank : Char → Bool) (text : List Char) :
    Option (Nat × Option Nat × List Char) := do
  let (first, rest) := readNumber text
  match rest with
  | '\x7d' :: rest =>
    let count ← decimal? first
    return (count, some count, rest)
  | ',' :: rest =>
    let least ← if isOpen && first.isEmpty then some 0 else decimal? first
    match readNumber rest with
    | (second, '\x7d' :: rest) =>
      if second.isEmpty then return (least, none, rest)
      else return (least, some (← decimal? second), rest)
    | _ => none
  | _ => none
where
  /-- Digits with blanks around them. -/
  readNumber (text : List Char) : List Char × List Char :=
    let text := text.dropWhile isBlank
    (text.takeWhile Char.isDigit, (text.dropWhile Char.isDigit).dropWhile isBlank)

/-- The greatest bound. -/
def maxBound : Nat := 4294967295

def areBounds (least : Nat) (most : Option Nat) : Bool :=
  least ≤ maxBound && most.all fun most => least ≤ most && most ≤ maxBound

/-- The bounds of the quantifier at the start of a text, if there is one. -/
def quantifier? (grammar : Grammar) (isSpaced : Bool) (text : List Char) :
    Option (Nat × Option Nat × List Char) :=
  match text with
  | '*' :: rest => some (0, none, rest)
  | '+' :: rest => some (1, none, rest)
  | '?' :: rest => some (0, some 1, rest)
  | '\x7b' :: rest => readBounds? (grammar == .free) (isSpaced && Text.isBlank ·) rest
  | _ => none

/-- Whether a text starts with a brace that the strict grammar takes for a quantifier, even one that
stands for itself because blanks are in it or because it follows another one. -/
def startsQuantifier (text : List Char) : Bool :=
  match text with
  | '\x7b' :: rest =>
    (readBounds? false Text.isBlank rest).any fun (least, most, _) => areBounds least most
  | _ => false

/-- The quantifier behind a piece, which must be there to be repeated. -/
def readQuantified (grammar : Grammar) (piece : Pattern) : ScanM Pattern := do
  let flags ← flags
  match quantifier? grammar flags.isSpaced (← rest) with
  | none => return piece
  | some (least, most, after) =>
    if piece = empty || !areBounds least most then malformed
    setRest after
    skipBlanks grammar
    let isLazy := (← accept '?') != flags.isLazy
    let piece := repeated piece least most isLazy
    return if ← accept '+' then preferred piece else piece

end Quantifiers

end WireCodecs.Pattern
