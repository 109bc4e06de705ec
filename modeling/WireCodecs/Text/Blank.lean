import WireCodecs.Text.CodeRange

/-! White space: the characters that count as blank, and trimming a text of them. -/

namespace WireCodecs.Text

/-- The Unicode property White_Space. -/
def blankRanges : List CodeRange := [
  ⟨0x9, 0xD⟩, ⟨0x20, 0x20⟩, ⟨0x85, 0x85⟩, ⟨0xA0, 0xA0⟩, ⟨0x1680, 0x1680⟩, ⟨0x2000, 0x200A⟩,
  ⟨0x2028, 0x2029⟩, ⟨0x202F, 0x202F⟩, ⟨0x205F, 0x205F⟩, ⟨0x3000, 0x3000⟩]

def isBlank (c : Char) : Bool := blankRanges.any (·.contains c)

/-- A text with nothing but blanks in it. -/
def isBlankText (text : String) : Bool := text.toList.all isBlank

def trimStartChars (text : List Char) : List Char := text.dropWhile isBlank

def trimEndChars (text : List Char) : List Char := (text.reverse.dropWhile isBlank).reverse

def trimEnd (text : String) : String := String.ofList (trimEndChars text.toList)

def trim (text : String) : String := String.ofList (trimEndChars (trimStartChars text.toList))

end WireCodecs.Text
