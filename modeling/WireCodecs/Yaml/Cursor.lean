/-! Positions in YAML text. A cursor has what is left to read and where that starts: how many bytes
and lines have been passed, and how many characters of the line. -/

namespace WireCodecs.Yaml

def isInlineSpace (c : Char) : Bool := c == ' ' || c == '\t'

def isBreak (c : Char) : Bool :=
  c == '\n' || c == '\r' || c == '\x85' || c == '\u2028' || c == '\u2029'

/-- White space and the end of the text end a word. -/
def endsWord : Option Char → Bool
  | none => true
  | some c => isInlineSpace c || isBreak c

/-- The characters of directive names, anchors and tag handles. -/
def isWordChar (c : Char) : Bool := c.isAlphanum || c == '_' || c == '-'

def byteOrderMark : Char := '\ufeff'

/-- The characters that YAML text may hold, escaped or in comments as well. -/
def isAllowed (c : Char) : Bool :=
  let n := c.toNat
  n == 0x9 || n == 0xA || n == 0xD || (0x20 ≤ n && n ≤ 0x7E) || n == 0x85 ||
    (0xA0 ≤ n && n ≤ 0xD7FF) || (0xE000 ≤ n && n ≤ 0xFFFD) || 0x10000 ≤ n

structure Cursor where
  rest : List Char
  /-- The number of bytes before. -/
  index : Nat
  line : Nat
  column : Nat
  deriving Repr

namespace Cursor

def ofText (text : List Char) : Cursor := ⟨text, 0, 0, 0⟩

def peek? (cursor : Cursor) : Option Char := cursor.rest.head?

/-- The character after `count` others. -/
def peekAt? (cursor : Cursor) (count : Nat) : Option Char := cursor.rest[count]?

def isAt (cursor : Cursor) (c : Char) : Bool := cursor.peek? == some c

/-- The number of bytes that encode characters. -/
def byteCount : List Char → Nat
  | [] => 0
  | c :: chars => c.utf8Size + byteCount chars

/-- Skips `count` characters of a line. -/
def skipCount (cursor : Cursor) (count : Nat) : Cursor where
  rest := cursor.rest.drop count
  index := cursor.index + byteCount (cursor.rest.take count)
  line := cursor.line
  column := cursor.column + count

def skip (cursor : Cursor) : Cursor := cursor.skipCount 1

/-- The characters that satisfy `p` up to the first that does not, on the same line. -/
def takeWhile (cursor : Cursor) (p : Char → Bool) : List Char × Cursor :=
  let taken := cursor.rest.takeWhile p
  (taken, cursor.skipCount taken.length)

def skipWhile (cursor : Cursor) (p : Char → Bool) : Cursor := (cursor.takeWhile p).2

/-- Skips the rest of a line, if it is a comment. -/
def skipComment (cursor : Cursor) : Cursor :=
  if cursor.isAt '#' then cursor.skipWhile (!isBreak ·) else cursor

def atBreak (cursor : Cursor) : Bool := cursor.peek?.any isBreak

/-- Reads a line break, if there is one. Only the two Unicode separators keep their form. -/
def takeBreak (cursor : Cursor) : List Char × Cursor :=
  match cursor.rest with
  | '\r' :: '\n' :: rest => (['\n'], ⟨rest, cursor.index + 2, cursor.line + 1, 0⟩)
  | c :: rest =>
    if isBreak c then
      ([if c == '\u2028' || c == '\u2029' then c else '\n'],
        ⟨rest, cursor.index + c.utf8Size, cursor.line + 1, 0⟩)
    else ([], cursor)
  | [] => ([], cursor)

def skipBreak (cursor : Cursor) : Cursor := cursor.takeBreak.2

/-- Whether the line starts here, with three times `c` as a word. -/
def atMarker (cursor : Cursor) (c : Char) : Bool :=
  cursor.column == 0 && cursor.rest.take 3 == [c, c, c] && endsWord (cursor.peekAt? 3)

/-- Whether a document starts or ends here. -/
def atDocumentMarker (cursor : Cursor) : Bool := cursor.atMarker '-' || cursor.atMarker '.'

end Cursor

end WireCodecs.Yaml
