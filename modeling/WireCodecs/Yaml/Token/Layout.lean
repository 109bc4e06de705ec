import WireCodecs.Yaml.Token.Property

/-! Cutting YAML text into tokens. In block context the column of a line opens and closes
collections. A simple key is known as a key only when the colon behind it is found, so the place of
its token is kept until then: on its line, and within 1024 bytes. A key that stands where its block
mapping must go on has to be found. -/

namespace WireCodecs.Yaml

/-- A place where a simple key may have started: after `count` tokens. -/
structure KeyPlace where
  count : Nat
  start : Cursor
  isRequired : Bool

/-- How far the text is cut. -/
structure Layout where
  cursor : Cursor
  /-- The tokens so far, the latest first. -/
  tokens : List Token
  count : Nat
  /-- The column of the innermost block collection, or -1 outside of all. -/
  indent : Int
  /-- The columns of the collections around it. -/
  outerIndents : List Int
  /-- Whether a simple key may start here. -/
  allowsKey : Bool
  keyPlace : Option KeyPlace
  /-- The places outside of the flow collections here, the innermost first. -/
  outerPlaces : List (Option KeyPlace)

namespace Layout

def ofText (text : List Char) : Layout where
  cursor := .ofText text
  tokens := []
  count := 0
  indent := -1
  outerIndents := []
  allowsKey := true
  keyPlace := none
  outerPlaces := []

def inFlow (layout : Layout) : Bool := !layout.outerPlaces.isEmpty

def column (layout : Layout) : Int := layout.cursor.column

def push (layout : Layout) (token : Token) : Layout :=
  { layout with tokens := token :: layout.tokens, count := layout.count + 1 }

/-- Puts a token after the first `count` tokens. -/
def insert (layout : Layout) (count : Nat) (token : Token) : Layout :=
  { layout with
    tokens := layout.tokens.insertIdx (layout.count - count) token
    count := layout.count + 1 }

section KeyPlaces

/-- Gives up the place of a key, unless the key is required. -/
def dropKeyPlace? (layout : Layout) : Option Layout :=
  if layout.keyPlace.any (·.isRequired) then none else some { layout with keyPlace := none }

/-- Remembers that a key may start here. -/
def markKeyPlace? (layout : Layout) : Option Layout :=
  if layout.allowsKey then do
    let isRequired := !layout.inFlow && layout.indent = layout.column
    let layout ← layout.dropKeyPlace?
    return { layout with keyPlace := some ⟨layout.count, layout.cursor, isRequired⟩ }
  else some layout

def maxKeyLength : Nat := 1024

/-- The place, if it is still near enough; a required key must be. -/
def freshPlace? (cursor : Cursor) : Option KeyPlace → Option (Option KeyPlace)
  | none => some none
  | some place =>
    if place.start.line < cursor.line || place.start.index + maxKeyLength < cursor.index then
      if place.isRequired then none else some none
    else some (some place)

def dropStalePlaces? (layout : Layout) : Option Layout := do
  let keyPlace ← freshPlace? layout.cursor layout.keyPlace
  let outerPlaces ← layout.outerPlaces.mapM (freshPlace? layout.cursor)
  return { layout with keyPlace := keyPlace, outerPlaces := outerPlaces }

end KeyPlaces

section Indentation

/-- Opens a block collection at `column` if it is right of the innermost one, with its token after
the first `count` tokens. -/
def openBlock (layout : Layout) (column : Int) (count : Nat) (token : Token) : Layout :=
  if !layout.inFlow && layout.indent < column then
    { layout.insert count token with
      indent := column
      outerIndents := layout.indent :: layout.outerIndents }
  else layout

/-- Closes the collections of `indents`, outermost last, that are right of `column`. -/
def closeIndents (column indent : Int) (tokens : List Token) (count : Nat) :
    List Int → Int × List Int × List Token × Nat
  | [] => (indent, [], tokens, count)
  | outer :: indents =>
    if column < indent then closeIndents column outer (.blockEnd :: tokens) (count + 1) indents
    else (indent, outer :: indents, tokens, count)

/-- Closes the block collections that are right of `column`. -/
def closeBlocks (layout : Layout) (column : Int) : Layout :=
  if layout.inFlow then layout
  else
    let (indent, outerIndents, tokens, count) :=
      closeIndents column layout.indent layout.tokens layout.count layout.outerIndents
    { layout with indent := indent, outerIndents := outerIndents, tokens := tokens, count := count }

end Indentation

section Blank

/-- Skips blanks, comments and line breaks before the next token. A tab is no blank where a simple
key may start in block context. A line break allows one there. A line may start with a byte order
mark, which takes up a column. -/
def skipBlank (fuel : Nat) (layout : Layout) : Layout :=
  match fuel with
  | 0 => layout
  | fuel + 1 =>
    let cursor :=
      if layout.cursor.column == 0 && layout.cursor.isAt byteOrderMark then layout.cursor.skip
      else layout.cursor
    let allowsTab := layout.inFlow || !layout.allowsKey
    let cursor := (cursor.skipWhile fun c => c == ' ' || (allowsTab && c == '\t')).skipComment
    if cursor.atBreak then
      skipBlank fuel
        { layout with cursor := cursor.skipBreak, allowsKey := layout.allowsKey || !layout.inFlow }
    else { layout with cursor := cursor }

end Blank

section Tokens

/-- A token of `length` characters. -/
def pushIndicator (layout : Layout) (length : Nat) (token : Token) : Layout :=
  { layout.push token with cursor := layout.cursor.skipCount length }

def readDocumentMarker? (layout : Layout) (token : Token) : Option Layout := do
  let layout ← (layout.closeBlocks (-1)).dropKeyPlace?
  return { layout with allowsKey := false }.pushIndicator 3 token

def readDirectiveLine? (layout : Layout) : Option Layout := do
  let layout ← (layout.closeBlocks (-1)).dropKeyPlace?
  let (token, cursor) ← readDirective? layout.cursor
  return { layout.push token with cursor := cursor, allowsKey := false }

def openFlow? (layout : Layout) (token : Token) : Option Layout := do
  let layout ← layout.markKeyPlace?
  return { layout with
    keyPlace := none
    outerPlaces := layout.keyPlace :: layout.outerPlaces
    allowsKey := true }.pushIndicator 1 token

def closeFlow? (layout : Layout) (token : Token) : Option Layout := do
  let layout ← layout.dropKeyPlace?
  let layout :=
    match layout.outerPlaces with
    | [] => layout
    | place :: places => { layout with keyPlace := place, outerPlaces := places }
  return { layout with allowsKey := false }.pushIndicator 1 token

def readFlowEntry? (layout : Layout) : Option Layout := do
  let layout ← layout.dropKeyPlace?
  return { layout with allowsKey := true }.pushIndicator 1 .flowEntry

/-- Opens a block collection here for an indicator, which must stand where a key may start. -/
def openHere? (layout : Layout) (token : Token) : Option Layout :=
  if layout.inFlow then some layout
  else if layout.allowsKey then some (layout.openBlock layout.column layout.count token)
  else none

def readBlockEntry? (layout : Layout) : Option Layout := do
  let layout ← layout.openHere? .blockSequenceStart
  let layout ← layout.dropKeyPlace?
  return { layout with allowsKey := true }.pushIndicator 1 .blockEntry

def readKey? (layout : Layout) : Option Layout := do
  let layout ← layout.openHere? .blockMappingStart
  let layout ← layout.dropKeyPlace?
  return { layout with allowsKey := !layout.inFlow }.pushIndicator 1 .key

/-- A colon: what started at the place of a key is the key, or else the key is missing or was
marked. -/
def readValue? (layout : Layout) : Option Layout := do
  match layout.keyPlace with
  | some place =>
    let layout := layout.insert place.count .key
    let layout := layout.openBlock place.start.column place.count .blockMappingStart
    return { layout with keyPlace := none, allowsKey := false }.pushIndicator 1 .value
  | none =>
    let layout ← layout.openHere? .blockMappingStart
    return { layout with allowsKey := !layout.inFlow }.pushIndicator 1 .value

/-- A token that may start a simple key and is followed by none. -/
def readContent? (layout : Layout) (read : Cursor → Option (Token × Cursor)) : Option Layout := do
  let layout ← layout.markKeyPlace?
  let (token, cursor) ← read layout.cursor
  return { layout.push token with cursor := cursor, allowsKey := false }

def readAnchor? (layout : Layout) (token : String → Token) : Option Layout :=
  layout.readContent? fun cursor => do
    let (name, cursor) ← readAnchorName? cursor
    return (token name, cursor)

def readQuotedScalar? (layout : Layout) (style : ScalarStyle) : Option Layout :=
  layout.readContent? fun cursor => do
    let (text, cursor) ← readQuoted? (style = .singleQuoted) cursor
    return (.scalar style text, cursor)

/-- A plain scalar. If a line break follows it, a simple key may start behind it. -/
def readPlainScalar? (layout : Layout) : Option Layout := do
  let layout ← layout.markKeyPlace?
  let (text, isBroken, cursor) ← readPlain? layout.inFlow (layout.indent + 1) layout.cursor
  return { layout.push (.scalar .plain text) with cursor := cursor, allowsKey := isBroken }

def readBlockScalar? (layout : Layout) (style : ScalarStyle) : Option Layout := do
  let layout ← layout.dropKeyPlace?
  let (text, cursor) ← readBlock? (style = .folded) layout.indent layout.cursor
  return { layout.push (.scalar style text) with cursor := cursor, allowsKey := true }

/-- The indicators that no plain scalar starts with. -/
def isIndicator (c : Char) : Bool :=
  ['-', '?', ':', ',', '[', ']', '\x7b', '\x7d', '#', '&', '*', '!', '|', '>', '\'', '"', '%', '@',
    '\x60'].contains c

/-- Whether a plain scalar starts with `c` before `next`: some indicators do if no white space
follows them. -/
def startsPlain (inFlow : Bool) (c : Char) (next : Option Char) : Bool :=
  !(endsWord (some c) || isIndicator c) || (c == '-' && !next.any isInlineSpace) ||
    (!inFlow && (c == '?' || c == ':') && !endsWord next)

/-- The next token, which starts with `c`. -/
def readToken? (layout : Layout) (c : Char) : Option Layout :=
  let next := layout.cursor.peekAt? 1
  let inFlow := layout.inFlow
  if layout.cursor.column == 0 && c == '%' then layout.readDirectiveLine?
  else if layout.cursor.atMarker '-' then layout.readDocumentMarker? .documentStart
  else if layout.cursor.atMarker '.' then layout.readDocumentMarker? .documentEnd
  else if c == '[' then layout.openFlow? .flowSequenceStart
  else if c == '\x7b' then layout.openFlow? .flowMappingStart
  else if c == ']' then layout.closeFlow? .flowSequenceEnd
  else if c == '\x7d' then layout.closeFlow? .flowMappingEnd
  else if c == ',' then layout.readFlowEntry?
  else if c == '-' && endsWord next then layout.readBlockEntry?
  else if c == '?' && (inFlow || endsWord next) then layout.readKey?
  else if c == ':' && (inFlow || endsWord next) then layout.readValue?
  else if c == '*' then layout.readAnchor? .reference
  else if c == '&' then layout.readAnchor? .anchor
  else if c == '!' then layout.readContent? (readTag? inFlow)
  else if c == '|' && !inFlow then layout.readBlockScalar? .literal
  else if c == '>' && !inFlow then layout.readBlockScalar? .folded
  else if c == '\'' then layout.readQuotedScalar? .singleQuoted
  else if c == '"' then layout.readQuotedScalar? .doubleQuoted
  else if startsPlain inFlow c next then layout.readPlainScalar?
  else none

/-- Reads all tokens that are left; each takes at least one character. -/
def readTokens? (fuel : Nat) (layout : Layout) : Option Layout :=
  match fuel with
  | 0 => none
  | fuel + 1 => do
    let layout ← (layout.skipBlank (layout.cursor.rest.length + 1)).dropStalePlaces?
    let layout := layout.closeBlocks layout.column
    match layout.cursor.peek? with
    | none => (layout.closeBlocks (-1)).dropKeyPlace?
    | some c => readTokens? fuel (← layout.readToken? c)

end Tokens

end Layout

/-- The tokens of a text. -/
def tokens? (text : String) : Option (List Token) := do
  let chars := text.toList
  if !chars.all isAllowed then none
  let layout ← (Layout.ofText chars).readTokens? (chars.length + 1)
  return layout.tokens.reverse

end WireCodecs.Yaml
