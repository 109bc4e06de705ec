import WireCodecs.Yaml.Token

/-! Tokens that begin with an indicator and hold names: directives, anchors, aliases and tags. -/

namespace WireCodecs.Yaml

section Tags

def isTagPunctuation (c : Char) : Bool :=
  [';', '/', '?', ':', '@', '&', '=', '+', '$', '.', '!', '~', '*', '\'', '(', ')'].contains c

/-- The characters of a tag, besides escapes. A verbatim tag may also hold some flow indicators. -/
def isTagChar (isVerbatim : Bool) (c : Char) : Bool :=
  isWordChar c || isTagPunctuation c || (isVerbatim && (c == ',' || c == '[' || c == ']'))

/-- The byte of an escape in a tag. -/
def readTagByte? (cursor : Cursor) : Option (UInt8 × Cursor) :=
  match cursor.rest with
  | '%' :: a :: b :: _ =>
    if isHexDigit a && isHexDigit b then some (.ofNat (hexNumber [a, b]), cursor.skipCount 3)
    else none
  | _ => none

/-- Exactly `count` further bytes of an encoded character. -/
def readFurtherBytes? : (count : Nat) → Cursor → Option (List UInt8 × Cursor)
  | 0, cursor => some ([], cursor)
  | count + 1, cursor => do
    let (byte, cursor) ← readTagByte? cursor
    if byte / 64 != 2 then none
    let (bytes, cursor) ← readFurtherBytes? count cursor
    return (byte :: bytes, cursor)

/-- The number of bytes that follow the first byte of an encoded character. -/
def furtherBytes? (first : UInt8) : Option Nat :=
  if first < 0x80 then some 0
  else if first / 32 = 6 then some 1
  else if first / 16 = 14 then some 2
  else if first / 8 = 30 then some 3
  else none

/-- The escaped bytes of one character. Which bits they carry does not matter. -/
def readTagEscape? (cursor : Cursor) : Option (List UInt8 × Cursor) := do
  let (first, cursor) ← readTagByte? cursor
  let (bytes, cursor) ← readFurtherBytes? (← furtherBytes? first) cursor
  return (first :: bytes, cursor)

/-- The bytes of a tag with `bytes` before them reversed. -/
def readTagBytes? (isVerbatim : Bool) (fuel : Nat) (bytes : List UInt8) (cursor : Cursor) :
    Option (List UInt8 × Cursor) :=
  match fuel, cursor.peek? with
  | fuel + 1, some '%' => do
    let (escaped, cursor) ← readTagEscape? cursor
    readTagBytes? isVerbatim fuel (escaped.reverse ++ bytes) cursor
  | fuel + 1, some c =>
    if isTagChar isVerbatim c then
      readTagBytes? isVerbatim fuel (.ofNat c.toNat :: bytes) cursor.skip
    else some (bytes, cursor)
  | _, _ => some (bytes, cursor)

/-- A tag's bytes after `start`; an exclamation mark at its start is left out. What is read may be
empty only if there is a start. -/
def readTagText? (isVerbatim : Bool) (start : List Char) (cursor : Cursor) :
    Option (List UInt8 × Cursor) := do
  let (bytes, cursor) ← readTagBytes? isVerbatim cursor.rest.length [] cursor
  if start.isEmpty && bytes.isEmpty then none
  else return (Tag.cut ((start.drop 1).map (.ofNat ·.toNat) ++ bytes.reverse), cursor)

/-- An exclamation mark with the word after it, and a second mark if there is one. -/
def readHandle? (cursor : Cursor) : Option (List Char × Cursor) :=
  if cursor.isAt '!' then
    let (word, cursor) := cursor.skip.takeWhile isWordChar
    if cursor.isAt '!' then some ('!' :: word ++ ['!'], cursor.skip)
    else some ('!' :: word, cursor)
  else none

def isFullHandle (handle : List Char) : Bool := 1 < handle.length && handle.getLast? == some '!'

/-- The handle and the suffix of a tag. A verbatim tag has the empty handle, and so has the tag that
is an exclamation mark alone. -/
def readTagParts? (cursor : Cursor) : Option (String × List UInt8 × Cursor) := do
  if cursor.peekAt? 1 == some '<' then
    let (suffix, cursor) ← readTagText? true [] (cursor.skipCount 2)
    if cursor.isAt '>' then return ("", suffix, cursor.skip) else none
  else
    let (handle, cursor) ← readHandle? cursor
    if isFullHandle handle then
      let (suffix, cursor) ← readTagText? false [] cursor
      return (String.ofList handle, suffix, cursor)
    else
      let (suffix, cursor) ← readTagText? false handle cursor
      if suffix.isEmpty then return ("", [Tag.mark], cursor) else return ("!", suffix, cursor)

/-- A tag. White space follows it, or a comma in a flow collection. -/
def readTag? (inFlow : Bool) (cursor : Cursor) : Option (Token × Cursor) := do
  let (handle, suffix, cursor) ← readTagParts? cursor
  if endsWord cursor.peek? || (inFlow && cursor.isAt ',') then
    return (.tag handle suffix, cursor)
  else none

end Tags

/-- The name of an anchor or alias, after its indicator. -/
def readAnchorName? (cursor : Cursor) : Option (String × Cursor) :=
  let (name, cursor) := cursor.skip.takeWhile isWordChar
  let ends := endsWord cursor.peek? ||
    cursor.peek?.any fun c => ['?', ':', ',', ']', '\x7d', '%', '@', '\x60'].contains c
  if name.isEmpty || !ends then none else some (String.ofList name, cursor)

section Directives

/-- A number of one to nine digits. -/
def readVersionNumber? (cursor : Cursor) : Option (Nat × Cursor) :=
  let (digits, cursor) := cursor.takeWhile Char.isDigit
  if digits.isEmpty || 9 < digits.length then none
  else some (digits.foldl (fun n c => n * 10 + (c.toNat - 48)) 0, cursor)

def readVersion? (cursor : Cursor) : Option (Token × Cursor) := do
  let (major, cursor) ← readVersionNumber? (cursor.skipWhile isInlineSpace)
  if !cursor.isAt '.' then none
  let (minor, cursor) ← readVersionNumber? cursor.skip
  return (.version major minor, cursor)

def readHandleDeclaration? (cursor : Cursor) : Option (Token × Cursor) := do
  let (handle, cursor) ← readHandle? (cursor.skipWhile isInlineSpace)
  if handle != ['!'] && !isFullHandle handle then none
  if !cursor.peek?.any isInlineSpace then none
  let (meaning, cursor) ← readTagText? true [] (cursor.skipWhile isInlineSpace)
  if endsWord cursor.peek? then return (.handle (String.ofList handle) meaning, cursor) else none

/-- A directive with the rest of its line, which holds nothing else but a comment. -/
def readDirective? (cursor : Cursor) : Option (Token × Cursor) := do
  let (name, cursor) := cursor.skip.takeWhile isWordChar
  if !endsWord cursor.peek? then none
  let (token, cursor) ←
    if name == "YAML".toList then readVersion? cursor
    else if name == "TAG".toList then readHandleDeclaration? cursor
    else none
  let cursor := (cursor.skipWhile isInlineSpace).skipComment
  if cursor.rest.isEmpty || cursor.atBreak then return (token, cursor.skipBreak) else none

end Directives

end WireCodecs.Yaml
