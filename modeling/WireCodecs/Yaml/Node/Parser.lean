import WireCodecs.Yaml.Node
import WireCodecs.Yaml.Token.Layout

/-! Reading the nodes from tokens. Each function takes what is left of the tokens and of the names
that anchors have been given. `fuel` bounds the depth of calls, of which every second reads a
token. -/

namespace WireCodecs.Yaml

/-- What is left to read, and what the directives and anchors so far have declared. -/
structure ParseState where
  tokens : List Token
  /-- What the tag handles stand for. -/
  handles : List (String × List UInt8)
  /-- The number of each anchor name, the latest first. -/
  anchors : List (String × Nat)

abbrev ParseM := StateT ParseState Option

namespace ParseM

def next? : ParseM (Option Token) := (·.tokens.head?) <$> get

def skip : ParseM Unit := modify fun state => { state with tokens := state.tokens.drop 1 }

/-- Reads a token, if it is the next one. -/
def accept (token : Token) : ParseM Bool := do
  if (← next?) = some token then
    skip
    return true
  else return false

/-- Reads a token that must be there. -/
def expect (token : Token) : ParseM Unit := do
  if !(← accept token) then failure

def isNext (tokens : List Token) : ParseM Bool := do
  return (← next?).any tokens.contains

end ParseM

open ParseM

section Labels

def standardHandles : List (String × List UInt8) :=
  [("!", [Tag.mark]), ("!!", (Tag.standard "").bytes)]

/-- The tag that a handle and a suffix stand for. -/
def resolveTag? (handles : List (String × List UInt8)) (handle : String) (suffix : List UInt8) :
    Option Tag :=
  if handle = "" then some ⟨suffix⟩
  else (handles.lookup handle).map fun meaning => ⟨meaning ++ suffix⟩

/-- Gives an anchor the number of distinct names so far. -/
def numberAnchor (name : String) : ParseM Nat := do
  let state ← get
  let number := state.anchors.length
  set { state with anchors := (name, number) :: state.anchors.filter (·.1 != name) }
  return number

/-- A label as it is written: the tag and the anchor in either order. -/
structure WrittenLabel where
  tag : Option (String × List UInt8)
  anchor : Option String

def readWrittenLabel : ParseM WrittenLabel := do
  match ← next? with
  | some (.anchor name) =>
    skip
    match ← next? with
    | some (.tag handle suffix) =>
      skip
      return ⟨some (handle, suffix), some name⟩
    | _ => return ⟨none, some name⟩
  | some (.tag handle suffix) =>
    skip
    match ← next? with
    | some (.anchor name) =>
      skip
      return ⟨some (handle, suffix), some name⟩
    | _ => return ⟨some (handle, suffix), none⟩
  | _ => return ⟨none, none⟩

def resolveLabel (written : WrittenLabel) : ParseM NodeLabel := do
  let tag ←
    match written.tag with
    | none => pure none
    | some (handle, suffix) => some <$> (resolveTag? (← get).handles handle suffix : Option Tag)
  let number ←
    match written.anchor with
    | none => pure none
    | some name => some <$> numberAnchor name
  return ⟨tag, number⟩

end Labels

mutual

/-- A node. Block collections are read with `inBlock` only, and with `indentless` also a sequence
that has no tokens around it. -/
def readNode (fuel : Nat) (inBlock indentless : Bool) : ParseM Node :=
  match fuel with
  | 0 => failure
  | fuel + 1 => do
    if let some (.reference name) ← next? then
      skip
      return .reference (← ((← get).anchors.lookup name : Option Nat))
    let written ← readWrittenLabel
    let label ← resolveLabel written
    match ← next? with
    | some .blockEntry =>
      if indentless then return .sequence label (← readIndentlessItems fuel)
      else emptyNode written label
    | some (.scalar style text) =>
      skip
      return .scalar label style text
    | some .flowSequenceStart =>
      skip
      return .sequence label (← readFlowItems fuel true)
    | some .flowMappingStart =>
      skip
      return .mapping label (← readFlowEntries fuel true)
    | some .blockSequenceStart =>
      if inBlock then
        skip
        return .sequence label (← readBlockItems fuel)
      else emptyNode written label
    | some .blockMappingStart =>
      if inBlock then
        skip
        return .mapping label (← readBlockEntries fuel)
      else emptyNode written label
    | _ => emptyNode written label
where
  /-- A node that is nothing but a label. -/
  emptyNode (written : WrittenLabel) (label : NodeLabel) : ParseM Node :=
    if written.tag.isSome || written.anchor.isSome then return .scalar label .plain ""
    else failure

/-- A node of a block collection, which is empty before one of `ends`. -/
def readBlockNode (fuel : Nat) (indentless : Bool) (ends : List Token) : ParseM Node :=
  match fuel with
  | 0 => failure
  | fuel + 1 => do
    if ← isNext ends then return .blank else readNode fuel true indentless

def readBlockItems (fuel : Nat) : ParseM (List Node) :=
  match fuel with
  | 0 => failure
  | fuel + 1 => do
    if ← accept .blockEntry then
      let item ← readBlockNode fuel false [.blockEntry, .blockEnd]
      return item :: (← readBlockItems fuel)
    else
      expect .blockEnd
      return []

def readIndentlessItems (fuel : Nat) : ParseM (List Node) :=
  match fuel with
  | 0 => failure
  | fuel + 1 => do
    if ← accept .blockEntry then
      let item ← readBlockNode fuel false [.blockEntry, .key, .value, .blockEnd]
      return item :: (← readIndentlessItems fuel)
    else return []

def readBlockEntries (fuel : Nat) : ParseM (List (Node × Node)) :=
  match fuel with
  | 0 => failure
  | fuel + 1 => do
    if ← accept .key then
      let key ← readBlockNode fuel true [.key, .value, .blockEnd]
      let value ← if ← accept .value then readBlockNode fuel true [.key, .value, .blockEnd]
        else pure .blank
      return (key, value) :: (← readBlockEntries fuel)
    else
      expect .blockEnd
      return []

/-- The items of a flow sequence from the first one on, or after an item. -/
def readFlowItems (fuel : Nat) (isFirst : Bool) : ParseM (List Node) :=
  match fuel with
  | 0 => failure
  | fuel + 1 => do
    if ← accept .flowSequenceEnd then return []
    if !isFirst then
      expect .flowEntry
      if ← accept .flowSequenceEnd then return []
    let item ← if ← accept .key then readPair fuel else readNode fuel false false
    return item :: (← readFlowItems fuel false)

/-- An entry among the items of a flow sequence, which is a mapping of its own. Where its key is
empty, the token after it is lost. -/
def readPair (fuel : Nat) : ParseM Node :=
  match fuel with
  | 0 => failure
  | fuel + 1 => do
    let key ←
      if ← isNext [.value, .flowEntry, .flowSequenceEnd] then
        skip
        pure .blank
      else readNode fuel false false
    let value ←
      if ← accept .value then readFlowNode fuel [.flowEntry, .flowSequenceEnd] else pure .blank
    return .mapping ⟨none, none⟩ [(key, value)]

/-- A node of a flow collection, which is empty before one of `ends`. -/
def readFlowNode (fuel : Nat) (ends : List Token) : ParseM Node :=
  match fuel with
  | 0 => failure
  | fuel + 1 => do
    if ← isNext ends then return .blank else readNode fuel false false

/-- The entries of a flow mapping from the first one on, or after an entry. -/
def readFlowEntries (fuel : Nat) (isFirst : Bool) : ParseM (List (Node × Node)) :=
  match fuel with
  | 0 => failure
  | fuel + 1 => do
    if ← accept .flowMappingEnd then return []
    if !isFirst then
      expect .flowEntry
      if ← accept .flowMappingEnd then return []
    let entry ←
      if ← accept .key then do
        let key ← readFlowNode fuel [.value, .flowEntry, .flowMappingEnd]
        let value ←
          if ← accept .value then readFlowNode fuel [.flowEntry, .flowMappingEnd] else pure .blank
        pure (key, value)
      else do
        let key ← readNode fuel false false
        pure (key, .blank)
    return entry :: (← readFlowEntries fuel false)

end

section Documents

/-- Whether a version can be read. -/
def isKnownVersion (major minor : Nat) : Bool := major == 1 && (minor == 1 || minor == 2)

/-- The directives before a document. The version is given at most once, and each handle too. -/
def readDirectives (fuel : Nat) (hasVersion : Bool) (handles : List (String × List UInt8)) :
    ParseM (List (String × List UInt8)) :=
  match fuel with
  | 0 => failure
  | fuel + 1 => do
    match ← next? with
    | some (.version major minor) =>
      if hasVersion || !isKnownVersion major minor then failure
      skip
      readDirectives fuel true handles
    | some (.handle name meaning) =>
      if (handles.lookup name).isSome then failure
      skip
      readDirectives fuel hasVersion ((name, meaning) :: handles)
    | _ => return handles

/-- The document that the tokens are. Only the first document may do without a start, and there is
no other. -/
def readDocument : ParseM Document := do
  let length := (← get).tokens.length
  let handles ← readDirectives (length + 1) false []
  modify fun state => { state with handles := handles ++ standardHandles }
  let hasDirectives := (← get).tokens.length < length
  let isExplicit ← accept .documentStart
  if hasDirectives && !isExplicit then failure
  match ← next? with
  | none =>
    if isExplicit then return ⟨some .blank⟩ else return ⟨none⟩
  | some first =>
    let root ←
      if isExplicit && [.documentStart, .documentEnd].contains first then pure .blank
      else readNode (4 * length + 4) true false
    skipEnds (length + 1)
    if (← next?).isSome then failure
    return ⟨some root⟩
where
  /-- Skips any number of document ends. -/
  skipEnds (fuel : Nat) : ParseM Unit :=
    match fuel with
    | 0 => failure
    | fuel + 1 => do
      if ← accept .documentEnd then skipEnds fuel

end Documents

/-- The document that a text has. -/
def parse? (text : String) : Option Document := do
  let (document, _) ← readDocument.run ⟨← tokens? text, [], []⟩
  return document

end WireCodecs.Yaml
