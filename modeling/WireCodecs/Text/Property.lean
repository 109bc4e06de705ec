import WireCodecs.Text.Blank
import WireCodecs.Text.CaseProperty
import WireCodecs.Text.Category
import WireCodecs.Text.ScriptTable

/-! Properties of characters by their names: some binary properties, general categories and scripts.
Case, blanks, hyphens and underscores make no difference in a name, and `is` may stand before it. -/

namespace WireCodecs.Text

section Names

/-- A name without what makes no difference in it. -/
def plainName (name : List Char) : List Char :=
  let name := match name with
    | i :: s :: rest => if (i == 'i' || i == 'I') && (s == 's' || s == 'S') then rest else name
    | _ => name
  (name.filter fun c => c.toNat < 0x80 && !([' ', '_', '-'].contains c)).map Char.toLower

/-- Whether a plain name is one of the names. -/
def isNamed (names : List String) (name : List Char) : Bool :=
  names.any fun other => plainName other.toList == name

end Names

section Categories

/-- The names of the general categories with the codes that each stands for. -/
def categoryNames : List (List String × List String) := [
  (["C", "Other"], ["C"]), (["Cc", "Control", "cntrl"], ["Cc"]), (["Cf", "Format"], ["Cf"]),
  (["Cn", "Unassigned"], ["Cn"]), (["Co", "Private_Use"], ["Co"]),
  (["L", "Letter"], ["L"]), (["LC", "Cased_Letter"], ["Lu", "Ll", "Lt"]),
  (["Ll", "Lowercase_Letter"], ["Ll"]), (["Lm", "Modifier_Letter"], ["Lm"]),
  (["Lo", "Other_Letter"], ["Lo"]), (["Lt", "Titlecase_Letter"], ["Lt"]),
  (["Lu", "Uppercase_Letter"], ["Lu"]), (["M", "Mark", "Combining_Mark"], ["M"]),
  (["Mc", "Spacing_Mark"], ["Mc"]), (["Me", "Enclosing_Mark"], ["Me"]),
  (["Mn", "Nonspacing_Mark"], ["Mn"]), (["N", "Number"], ["N"]),
  (["Nd", "Decimal_Number", "digit"], ["Nd"]), (["Nl", "Letter_Number"], ["Nl"]),
  (["No", "Other_Number"], ["No"]), (["P", "Punctuation", "punct"], ["P"]),
  (["Pc", "Connector_Punctuation"], ["Pc"]), (["Pd", "Dash_Punctuation"], ["Pd"]),
  (["Pe", "Close_Punctuation"], ["Pe"]), (["Pf", "Final_Punctuation"], ["Pf"]),
  (["Pi", "Initial_Punctuation"], ["Pi"]), (["Po", "Other_Punctuation"], ["Po"]),
  (["Ps", "Open_Punctuation"], ["Ps"]), (["S", "Symbol"], ["S"]),
  (["Sc", "Currency_Symbol"], ["Sc"]), (["Sk", "Modifier_Symbol"], ["Sk"]),
  (["Sm", "Math_Symbol"], ["Sm"]), (["So", "Other_Symbol"], ["So"]),
  (["Z", "Separator"], ["Z"]), (["Zl", "Line_Separator"], ["Zl"]),
  (["Zp", "Paragraph_Separator"], ["Zp"]), (["Zs", "Space_Separator"], ["Zs"])]

/-- The characters of a general category with a plain name. -/
def categoryNamed? (name : List Char) : Option (List CodeRange) :=
  if isNamed ["Any"] name then some [⟨0, 0x10FFFF⟩]
  else if isNamed ["ASCII"] name then some [⟨0, 0x7F⟩]
  else if isNamed ["Assigned"] name then some (rangesWhere (· != "Cn".toList))
  else (categoryNames.find? (isNamed ·.1 name)).map fun entry => rangesOfCategories entry.2

end Categories

section Scripts

def scriptRanges : List (String × CodeRange) := labelledRanges scriptText

/-- The characters of a script with a plain name. -/
def scriptNamed? (name : List Char) : Option (List CodeRange) :=
  (scriptNames.find? fun (code, long) => isNamed [code, long] name).map fun (code, _) =>
    (scriptRanges.filter (·.1 == code)).map (·.2)

end Scripts

section Identifiers

/-- The characters that start an identifier. -/
def identifierStartRanges : List CodeRange :=
  punchAll [.one 0x2E2F] (rangesOfCategories ["L", "Nl"]) ++
    [⟨0x1885, 0x1886⟩, .one 0x2118, .one 0x212E, ⟨0x309B, 0x309C⟩]

/-- The characters of identifiers. -/
def identifierRanges : List CodeRange :=
  identifierStartRanges ++ rangesOfCategories ["Mn", "Mc", "Nd", "Pc"] ++
    [.one 0xB7, .one 0x387, ⟨0x1369, 0x1371⟩, .one 0x19DA, ⟨0x200C, 0x200D⟩, .one 0x30FB,
      .one 0xFF65]

end Identifiers

section Graphemes

/-- The characters that extend what is written before them. -/
def graphemeExtendRanges : List CodeRange :=
  rangesOfCategories ["Me", "Mn"] ++ lengthRanges otherGraphemeExtendText

/-- The characters that others extend: all that are written and extend nothing themselves. -/
def graphemeBaseRanges : List CodeRange :=
  punchAll graphemeExtendRanges
    (rangesWhere fun entry =>
      !(["Cc", "Cf", "Co", "Cn", "Zl", "Zp"].any fun code => code.toList == entry.take 2))

end Graphemes

section Binary

/-- The characters with a binary property that has a plain name and follows from others. -/
def derivedNamed? (name : List Char) : Option (List CodeRange) :=
  if isNamed ["Alphabetic", "Alpha"] name then some alphabeticRanges
  else if isNamed ["White_Space", "WSpace", "space"] name then some blankRanges
  else if isNamed ["ID_Start", "IDS"] name then some identifierStartRanges
  else if isNamed ["ID_Continue", "IDC"] name then some identifierRanges
  else if isNamed ["XID_Start", "XIDS"] name then
    some (punchAll (lengthRanges unstableStartText) identifierStartRanges)
  else if isNamed ["XID_Continue", "XIDC"] name then
    some (punchAll (lengthRanges unstableContinueText) identifierRanges)
  else if isNamed ["Grapheme_Extend", "Gr_Ext"] name then some graphemeExtendRanges
  else if isNamed ["Grapheme_Base", "Gr_Base"] name then some graphemeBaseRanges
  else none

/-- The characters with a binary property that has a plain name. -/
def binaryNamed? (name : List Char) : Option (List CodeRange) :=
  ((derivedNamed? name).or
    ((CaseProperty.named.find? (isNamed ·.1 name)).map (·.2.ranges))).or
      ((propertyTexts.find? (isNamed ·.1 name)).map (lengthRanges ·.2))

end Binary

/-- The characters with a property that has a name: a binary property, or else a category, or else a
script. -/
def rangesNamed? (name : List Char) : Option (List CodeRange) :=
  let name := plainName name
  ((binaryNamed? name).or (categoryNamed? name)).or (scriptNamed? name)

/-- The characters for which a property has a value. -/
def rangesValued? (property value : List Char) : Option (List CodeRange) :=
  let property := plainName property
  if isNamed ["gc", "General_Category"] property then categoryNamed? (plainName value)
  else if isNamed ["sc", "Script", "scx", "Script_Extensions"] property then
    scriptNamed? (plainName value)
  else none

end WireCodecs.Text
