import WireCodecs.Json
import WireCodecs.Number.Shortest
import WireCodecs.Text.Lines

/-! Writing JSON values as compact text. A floating-point number is written with the fewest digits
that read back, always with a fraction or an exponent: positional from `0.00001` to below `10 ^ 16`
and with a signed exponent otherwise. -/

namespace WireCodecs

namespace Binary64

def zeros (n : Int) : String := String.ofList (List.replicate n.toNat '0')

/-- The text of the decimal `d`, which is not zero unless its exponent is zero. -/
def Decimal.text (d : Decimal) : String :=
  let digits := Nat.toDigits 10 d.digits
  let point : Int := digits.length + d.exponent
  if 0 ≤ d.exponent && point ≤ 16 then String.ofList digits ++ zeros d.exponent ++ ".0"
  else if 0 < point && point ≤ 16 then
    String.ofList (digits.take point.toNat) ++ "." ++ String.ofList (digits.drop point.toNat)
  else if -5 < point && point ≤ 0 then "0." ++ zeros (-point) ++ String.ofList digits
  else
    let mantissa := match digits with
      | [d] => String.ofList [d]
      | d :: rest => String.ofList (d :: '.' :: rest)
      | [] => ""
    let exponent := point - 1
    mantissa ++ "e" ++ (if exponent < 0 then "-" else "+") ++ toString exponent.natAbs

def text (x : Binary64) : String :=
  (if x.negative then "-" else "") ++ x.shortest.text

end Binary64

namespace Json

def escapeChar (c : Char) : List Char :=
  if c = '"' then ['\\', '"']
  else if c = '\\' then ['\\', '\\']
  else if c = '\x08' then ['\\', 'b']
  else if c = '\x0c' then ['\\', 'f']
  else if c = '\n' then ['\\', 'n']
  else if c = '\r' then ['\\', 'r']
  else if c = '\t' then ['\\', 't']
  else if c.toNat < 0x10 then '\\' :: 'u' :: '0' :: '0' :: '0' :: Nat.toDigits 16 c.toNat
  else if c.toNat < 0x20 then '\\' :: 'u' :: '0' :: '0' :: Nat.toDigits 16 c.toNat
  else [c]

def quote (text : String) : String :=
  String.ofList ('"' :: text.toList.flatMap escapeChar ++ ['"'])

mutual

def render : Json → String
  | null => "null"
  | bool true => "true"
  | bool false => "false"
  | int value => toString value
  | float value => value.text
  | string value => quote value
  | array items => "[" ++ Text.joinWith "," (renderItems items) ++ "]"
  | object entries => "\x7b" ++ Text.joinWith "," (renderEntries entries) ++ "\x7d"

def renderItems : List Json → List String
  | [] => []
  | item :: items => item.render :: renderItems items

def renderEntries : List (String × Json) → List String
  | [] => []
  | (key, value) :: entries => (quote key ++ ":" ++ value.render) :: renderEntries entries

end

end Json

end WireCodecs
