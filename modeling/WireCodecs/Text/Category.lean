import WireCodecs.Text.CategoryTable
import WireCodecs.Text.CodeRange

/-! General categories of characters, by their codes of two letters, and the classes of characters
that they make up. -/

namespace WireCodecs.Text

def categoryRanges : List (String × CodeRange) := labelledRanges categoryText

/-- The ranges of the characters whose entries satisfy `p`. -/
def rangesWhere (p : List Char → Bool) : List CodeRange :=
  joinRanges ((categoryRanges.filter fun entry => p entry.1.toList).map (·.2))

/-- Whether an entry is of a category whose code is given, or starts with a given letter. -/
def isOfCategories (codes : List String) (entry : List Char) : Bool :=
  codes.any fun code => entry.take code.length == code.toList

def rangesOfCategories (codes : List String) : List CodeRange := rangesWhere (isOfCategories codes)

/-- Whether an entry is of characters that spell words in some language. -/
def isAlphabeticEntry (entry : List Char) : Bool :=
  isOfCategories ["Lu", "Ll", "Lt", "Lm", "Lo", "Nl"] entry || entry.getLast? == some 'a'

def alphabeticRanges : List CodeRange := rangesWhere isAlphabeticEntry

def decimalRanges : List CodeRange := rangesOfCategories ["Nd"]

/-- The characters of words: letters, marks, digits, connecting punctuation and the two joiners. -/
def wordRanges : List CodeRange :=
  ⟨0x200C, 0x200D⟩ ::
    rangesWhere fun entry => isAlphabeticEntry entry || isOfCategories ["M", "Nd", "Pc"] entry

def isInRanges (ranges : List CodeRange) (c : Char) : Bool := ranges.any (·.contains c)

def isWord (c : Char) : Bool := isInRanges wordRanges c

end WireCodecs.Text
