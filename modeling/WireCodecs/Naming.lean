import WireCodecs.Text.Case
import WireCodecs.Text.Lines

/-! Casing of identifiers. Word boundaries are found in the upper-snake form: an underscore goes
before an upper-case letter that follows a lower-case letter or a digit, and before an upper-case
letter that starts a new word after an acronym. -/

namespace WireCodecs.Naming

open Text

/-- Upper-cases the first character. -/
def capitalChars : List Char → List Char
  | [] => []
  | c :: rest => upperChars c ++ rest

def capital (name : String) : String := String.ofList (capitalChars name.toList)

/-- Lower-cases the first character. -/
def uncapitalChars : List Char → List Char
  | [] => []
  | c :: rest => lowerChars c ++ rest

def uncapital (name : String) : String := String.ofList (uncapitalChars name.toList)

def isParenthesis (c : Char) : Bool := c == '(' || c == ')'

/-- Drops parentheses and joins the capitalised parts between underscores. -/
def pascal (name : String) : String :=
  String.ofList <|
    (splitChars '_' (name.toList.filter (!isParenthesis ·))).flatMap capitalChars

/-- Whether an underscore goes between `previous` and the upper-case letter after it, where `next`
is what follows that letter. -/
def isBoundary (previous : Char) (next : Option Char) : Bool :=
  previous != '_' && (isLowercase previous || previous.isDigit || next.any isLowercase)

/-- The upper-snake form of `rest` after the character `previous`. -/
def upperSnakeAfter (previous : Char) : List Char → List Char
  | [] => []
  | c :: rest =>
    let word := upperChars c ++ upperSnakeAfter c rest
    if isUppercase c && isBoundary previous rest.head? then '_' :: word else word

def upperSnakeChars : List Char → List Char
  | [] => []
  | c :: rest => upperChars c ++ upperSnakeAfter c rest

def upperSnake (name : String) : String := String.ofList (upperSnakeChars name.toList)

def snake (name : String) : String := lowercase (upperSnake name)

end WireCodecs.Naming
