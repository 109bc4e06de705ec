import WireCodecs.Text.CaseTable

/-! Letter case of characters and of whole texts. A character may have several characters as its
other case (`ß` in upper case is `SS`), so both mappings give lists. Title-case letters are neither
upper nor lower case. In a lower-cased text a capital sigma at the end of a word becomes the final
form; everything else is lower-cased character by character. -/

namespace WireCodecs.Text

section Tables

def inRuns (runs : List CaseRun) (n : Nat) : Bool := runs.any (·.covers n)

/-- The shift of the run that holds `n`, if one does. -/
def shiftOf? (runs : List CaseRun) (n : Nat) : Option Int :=
  (runs.find? (·.covers n)).map (·.shift)

/-- The other case of `c`: an expansion if the table has one, else the shifted character. -/
def mapCase (expansions : List (Nat × List Nat)) (runs : List CaseRun) (c : Char) : List Char :=
  match expansions.lookup c.toNat with
  | some codes => codes.map Char.ofNat
  | none =>
    match shiftOf? runs c.toNat with
    | some shift => [Char.ofNat (c.toNat + shift).toNat]
    | none => [c]

end Tables

def upperChars (c : Char) : List Char :=
  if c.toNat < 128 then [c.toUpper]
  else mapCase CaseTable.upperExpansions CaseTable.upperMapping c

def lowerChars (c : Char) : List Char :=
  if c.toNat < 128 then [c.toLower]
  else mapCase CaseTable.lowerExpansions CaseTable.lowerMapping c

def isUppercase (c : Char) : Bool :=
  if c.toNat < 128 then c.isUpper else inRuns CaseTable.uppercase c.toNat

def isLowercase (c : Char) : Bool :=
  if c.toNat < 128 then c.isLower else inRuns CaseTable.lowercase c.toNat

/-- A letter with case, title-case letters included. -/
def isCased (c : Char) : Bool :=
  isUppercase c || isLowercase c || inRuns CaseTable.titlecase c.toNat

/-- Characters that do not interrupt a word when the end of the word is looked for. -/
def isCaseIgnorable (c : Char) : Bool :=
  c == '\'' || c == '.' || c == ':' || c == '^' || c == Char.ofNat 0x60 ||
    inRuns CaseTable.caseIgnorable c.toNat

def startsCased (text : List Char) : Bool :=
  match text.dropWhile isCaseIgnorable with
  | [] => false
  | c :: _ => isCased c

/-- The lower case of `Σ` between the reversed text before it and the text after it. -/
def lowerSigma (before after : List Char) : Char :=
  if startsCased before && !startsCased after then 'ς' else 'σ'

/-- Lower-cases `rest`, where `before` is the text before it, reversed. -/
def lowerFrom (before : List Char) : List Char → List Char
  | [] => []
  | c :: rest =>
    (if c = 'Σ' then [lowerSigma before rest] else lowerChars c) ++ lowerFrom (c :: before) rest

def lowercase (text : String) : String := String.ofList (lowerFrom [] text.toList)

end WireCodecs.Text
