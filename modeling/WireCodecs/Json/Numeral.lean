import WireCodecs.Json

/-! Numerals of JSON. A numeral without fraction and exponent that fits 64 bits, signed or unsigned,
is a whole number; every other numeral is a floating-point number. Its value is the digits that fit
64 bits, as one floating-point number, times or divided by a power of ten, so the last bit may
differ from the nearest number when there are many digits. Minus zero is a floating-point number. -/

namespace WireCodecs.Json

/-- A numeral in parts: sign, whole digits, digits of the fraction, exponent. -/
structure Numeral where
  negative : Bool
  whole : List Nat
  fraction : Option (List Nat)
  exponent : Option Int

namespace Numeral

def maxUnsigned : Nat := Nat.pow 2 64 - 1

def digitValue (c : Char) : Nat := c.toNat - 48

/-- Appends digits to a number while it fits 64 bits, and says how many were taken. -/
def absorb (number : Nat) : List Nat → Nat × Nat
  | [] => (number, 0)
  | d :: rest =>
    if maxUnsigned < number * 10 + d then (number, 0)
    else
      let (result, taken) := absorb (number * 10 + d) rest
      (result, taken + 1)

/-- The floating-point number `10 ^ n` for the exponents that have one. -/
def powerOfTen? (n : Nat) : Option Binary64 :=
  if n ≤ 308 then Binary64.ofRatio? false (Nat.pow 10 n) 1 else none

/-- `x * 10 ^ exponent`, rounded after each of the steps, which go by powers up to 308. There is no
value if it overflows. -/
def scale (fuel : Nat) (x : Binary64) (exponent : Int) : Option Binary64 :=
  match powerOfTen? exponent.natAbs with
  | some power => if 0 ≤ exponent then x.mul? power else x.div? power
  | none =>
    if x.mantissa = 0 then some x
    else if 0 ≤ exponent then none
    else
      match fuel with
      | 0 => some (Binary64.zero x.negative)
      | fuel + 1 => do
        let power ← powerOfTen? 308
        scale fuel (← x.div? power) (exponent + 308)

def toFloat? (n : Numeral) : Option Binary64 := do
  let (head, taken) := absorb 0 n.whole
  let (significand, places) := absorb head (n.fraction.getD [])
  let exponent := (n.whole.length - taken : Nat) - (places : Int) + n.exponent.getD 0
  scale 20 (← Binary64.ofRatio? n.negative significand 1) exponent

def toJson? (n : Numeral) : Option Json :=
  let whole := n.whole.foldl (fun number d => number * 10 + d) 0
  if n.fraction.isNone && n.exponent.isNone && whole ≤ maxUnsigned &&
      (!n.negative || (0 < whole && whole ≤ Nat.pow 2 63)) then
    some (.int (if n.negative then -whole else whole))
  else n.toFloat?.map .float

/-- The digits at the start of a text, and what follows them. -/
def spanDigits (text : List Char) : List Nat × List Char :=
  ((text.takeWhile Char.isDigit).map digitValue, text.dropWhile Char.isDigit)

/-- Whole digits: a zero alone, or digits that do not start with zero. -/
def readWhole? (text : List Char) : Option (List Nat × List Char) :=
  match spanDigits text with
  | ([], _) | (0 :: _ :: _, _) => none
  | result => some result

def readFraction? : List Char → Option (Option (List Nat) × List Char)
  | '.' :: rest =>
    match spanDigits rest with
    | ([], _) => none
    | (digits, rest) => some (some digits, rest)
  | text => some (none, text)

def readSign : List Char → Bool × List Char
  | '-' :: rest => (true, rest)
  | '+' :: rest => (false, rest)
  | text => (false, text)

def readExponent? (text : List Char) : Option (Option Int × List Char) :=
  match text with
  | c :: rest =>
    if c = 'e' || c = 'E' then
      let (negative, rest) := readSign rest
      match spanDigits rest with
      | ([], _) => none
      | (digits, rest) =>
        let size : Nat := digits.foldl (fun number d => number * 10 + d) 0
        some (some (if negative then -size else size), rest)
    else some (none, text)
  | [] => some (none, [])

/-- Reads the numeral at the start of a text. -/
def read? (text : List Char) : Option (Numeral × List Char) := do
  let (negative, text) := match text with
    | '-' :: rest => (true, rest)
    | _ => (false, text)
  let (whole, text) ← readWhole? text
  let (fraction, text) ← readFraction? text
  let (exponent, text) ← readExponent? text
  return (⟨negative, whole, fraction, exponent⟩, text)

end Numeral

end WireCodecs.Json
