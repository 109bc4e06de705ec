import WireCodecs.Number.Binary64
import WireCodecs.Yaml.Node

/-! What plain scalars stand for: null, truth values, integers in four bases and floating-point
numbers; every other text is a string. Digits after a leading zero are a string too. -/

namespace WireCodecs.Yaml

def isNullText (text : String) : Bool := ["null", "Null", "NULL", "~"].contains text

def boolOfText? (text : String) : Option Bool :=
  if ["true", "True", "TRUE"].contains text then some true
  else if ["false", "False", "FALSE"].contains text then some false
  else none

section Integers

def isSign (c : Char) : Bool := c == '+' || c == '-'

/-- Two or more digits of which the first is a zero, with a sign or without. -/
def hasLeadingZero (text : List Char) : Bool :=
  let digits := match text with
    | c :: rest => if isSign c then rest else text
    | [] => []
  match digits with
  | '0' :: c :: rest => (c :: rest).all Char.isDigit
  | _ => false

def digitValue? (base : Nat) (c : Char) : Option Nat :=
  if isHexDigit c && hexValue c < base then some (hexValue c) else none

/-- The number that digits write in a base; at least one digit is needed. -/
def digitsValue? (base : Nat) (digits : List Char) : Option Nat :=
  if digits.isEmpty then none
  else digits.foldlM (fun n c => (n * base + ·) <$> digitValue? base c) 0

/-- An integer without a minus sign. Bases other than ten have a mark before the digits. -/
def naturalOfText? (text : List Char) : Option Nat :=
  let unsigned := match text with
    | '+' :: rest => rest
    | _ => text
  match unsigned with
  | '0' :: 'x' :: digits => digitsValue? 16 digits
  | '0' :: 'o' :: digits => digitsValue? 8 digits
  | '0' :: 'b' :: digits => digitsValue? 2 digits
  | digits => if hasLeadingZero text then none else digitsValue? 10 digits

/-- An integer, with a minus sign if it is negative. -/
def integerOfText? (text : List Char) : Option Int :=
  match text with
  | '-' :: '0' :: 'x' :: digits => (digitsValue? 16 digits).map fun n => -n
  | '-' :: '0' :: 'o' :: digits => (digitsValue? 8 digits).map fun n => -n
  | '-' :: '0' :: 'b' :: digits => (digitsValue? 2 digits).map fun n => -n
  | '-' :: digits =>
    if hasLeadingZero text then none else (digitsValue? 10 digits).map fun n => -n
  | _ => (naturalOfText? text).map fun n => n

end Integers

section Floats

/-- A floating-point number, whose magnitude may be out of range. -/
inductive FloatText where
  | finite (value : Binary64)
  /-- Not a number, or infinite. -/
  | special
  deriving DecidableEq, Repr

def isSpecialFloat (text : String) : Bool :=
  [".inf", ".Inf", ".INF", "+.inf", "+.Inf", "+.INF", "-.inf", "-.Inf", "-.INF", ".nan", ".NaN",
    ".NAN"].contains text

/-- An exponent after its letter, with an optional sign. -/
def exponentOfText? (text : List Char) : Option Int :=
  match text with
  | '-' :: digits => (digitsValue? 10 digits).map fun n => -n
  | '+' :: digits => (digitsValue? 10 digits).map fun n => n
  | digits => (digitsValue? 10 digits).map fun n => n

/-- A decimal number without a sign: digits, at most one period among or around them, and an
exponent if there is one. -/
def decimalOfText? (isNegative : Bool) (text : List Char) : Option Binary64 := do
  let isExponentMark := fun c => c == 'e' || c == 'E'
  let mantissa := text.takeWhile (!isExponentMark ·)
  let exponent ←
    match text.dropWhile (!isExponentMark ·) with
    | [] => some 0
    | _ :: exponent => exponentOfText? exponent
  let whole := mantissa.takeWhile (· != '.')
  let fraction := (mantissa.dropWhile (· != '.')).drop 1
  let digits ← digitsValue? 10 (whole ++ fraction)
  Binary64.ofDecimal? isNegative digits (exponent - fraction.length)

/-- A floating-point number; one that is beyond the largest is a string. -/
def floatOfText? (text : String) : Option FloatText :=
  if isSpecialFloat text then some .special
  else
    let value? := match text.toList with
      | '+' :: rest => if rest.head?.any isSign then none else decimalOfText? false rest
      | '-' :: rest => decimalOfText? true rest
      | chars => decimalOfText? false chars
    value?.map .finite

end Floats

end WireCodecs.Yaml
