import WireCodecs.Json.Numeral

/-! Reading JSON text. Nothing but the one value and white space may stand in the text; arrays and
objects nest at most 127 deep. Of several entries with one key the last counts. -/

namespace WireCodecs.Json

def isSpace (c : Char) : Bool := c == ' ' || c == '\n' || c == '\t' || c == '\r'

def skipSpace (text : List Char) : List Char := text.dropWhile isSpace

def hexDigit? (c : Char) : Option Nat :=
  if c.isDigit then some (c.toNat - 48)
  else if 'a' ≤ c && c ≤ 'f' then some (c.toNat - 87)
  else if 'A' ≤ c && c ≤ 'F' then some (c.toNat - 55)
  else none

/-- The number written by the four hexadecimal digits at the start of a text. -/
def hex4? : List Char → Option (Nat × List Char)
  | a :: b :: c :: d :: rest => do
    return ((((← hexDigit? a) * 16 + (← hexDigit? b)) * 16 + (← hexDigit? c)) * 16
      + (← hexDigit? d), rest)
  | _ => none

def simpleEscape? : Char → Option Char
  | '"' => some '"'
  | '\\' => some '\\'
  | '/' => some '/'
  | 'b' => some '\x08'
  | 'f' => some '\x0c'
  | 'n' => some '\n'
  | 'r' => some '\r'
  | 't' => some '\t'
  | _ => none

/-- The character of a numbered escape after its `u`: one code unit, or two for the characters that
need a pair. A unit of a pair may not stand alone. -/
def numberedEscape? (text : List Char) : Option (Char × List Char) := do
  let (unit, rest) ← hex4? text
  if 0xDC00 ≤ unit && unit ≤ 0xDFFF then none
  else if 0xD800 ≤ unit && unit ≤ 0xDBFF then
    match rest with
    | '\\' :: 'u' :: rest =>
      let (low, rest) ← hex4? rest
      if 0xDC00 ≤ low && low ≤ 0xDFFF then
        return (Char.ofNat (0x10000 + (unit - 0xD800) * 0x400 + (low - 0xDC00)), rest)
      else none
    | _ => none
  else return (Char.ofNat unit, rest)

/-- The rest of a string whose opening quote is read; `read` holds its characters so far, reversed.
Each step reads at least one character, so `fuel` need not exceed the length of the text. -/
def readString? (fuel : Nat) (read : List Char) (text : List Char) :
    Option (String × List Char) :=
  match fuel, text with
  | 0, _ | _, [] => none
  | _ + 1, '"' :: rest => some (String.ofList read.reverse, rest)
  | fuel + 1, '\\' :: 'u' :: rest => do
    let (c, rest) ← numberedEscape? rest
    readString? fuel (c :: read) rest
  | fuel + 1, '\\' :: c :: rest => do
    readString? fuel ((← simpleEscape? c) :: read) rest
  | fuel + 1, c :: rest =>
    if c.toNat < 0x20 || c = '\\' then none else readString? fuel (c :: read) rest

section Containers

variable (value? : List Char → Option (Json × List Char))

/-- The items of an array after its bracket or a comma, up to the closing bracket. -/
def readItems? (fuel : Nat) (items : List Json) (text : List Char) :
    Option (Json × List Char) :=
  match fuel with
  | 0 => none
  | fuel + 1 => do
    let (item, rest) ← value? (skipSpace text)
    match skipSpace rest with
    | ',' :: rest => readItems? fuel (item :: items) rest
    | ']' :: rest => some (.array (item :: items).reverse, rest)
    | _ => none

/-- The entries of an object after its brace or a comma, up to the closing brace. -/
def readEntries? (fuel : Nat) (entries : List (String × Json)) (text : List Char) :
    Option (Json × List Char) :=
  match fuel, skipSpace text with
  | fuel + 1, '"' :: rest => do
    let (key, rest) ← readString? rest.length [] rest
    match skipSpace rest with
    | ':' :: rest =>
      let (item, rest) ← value? (skipSpace rest)
      match skipSpace rest with
      | ',' :: rest => readEntries? fuel ((key, item) :: entries) rest
      | '\x7d' :: rest => some (ofEntries ((key, item) :: entries).reverse, rest)
      | _ => none
    | _ => none
  | _, _ => none

def readArray? (text : List Char) : Option (Json × List Char) :=
  match skipSpace text with
  | ']' :: rest => some (.array [], rest)
  | text => readItems? value? text.length [] text

def readObject? (text : List Char) : Option (Json × List Char) :=
  match skipSpace text with
  | '\x7d' :: rest => some (.object [], rest)
  | text => readEntries? value? text.length [] text

end Containers

/-- The value at the start of a text, with containers at most `depth` deep. -/
def readValue? (depth : Nat) (text : List Char) : Option (Json × List Char) :=
  match text, depth with
  | 'n' :: 'u' :: 'l' :: 'l' :: rest, _ => some (.null, rest)
  | 't' :: 'r' :: 'u' :: 'e' :: rest, _ => some (.bool true, rest)
  | 'f' :: 'a' :: 'l' :: 's' :: 'e' :: rest, _ => some (.bool false, rest)
  | '"' :: rest, _ => do
    let (value, rest) ← readString? rest.length [] rest
    return (.string value, rest)
  | '[' :: rest, depth + 1 => readArray? (readValue? depth) rest
  | '\x7b' :: rest, depth + 1 => readObject? (readValue? depth) rest
  | text, _ => do
    let (numeral, rest) ← Numeral.read? text
    return (← numeral.toJson?, rest)

def maxDepth : Nat := 127

def parse? (text : String) : Option Json :=
  match readValue? maxDepth (skipSpace text.toList) with
  | some (value, rest) => if (skipSpace rest).isEmpty then some value else none
  | none => none

end WireCodecs.Json
