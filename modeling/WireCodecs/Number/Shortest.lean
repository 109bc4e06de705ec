import WireCodecs.Number.Binary64

/-! The shortest decimal that reads back to a given binary number. The decimals that round to the
number form an interval, ends included if the mantissa is even. Grids of one, two, three and more
significant digits are tried in turn; on each only the two neighbours of the number can lie in the
interval, and of two that do the nearer one is taken. -/

namespace WireCodecs.Binary64

/-- `digits * 10 ^ exponent`. -/
structure Decimal where
  digits : Nat
  exponent : Int
  deriving DecidableEq, Repr

/-- The numerators of the number and of both ends of its interval, over one denominator. -/
structure Neighbourhood where
  low : Nat
  mid : Nat
  high : Nat
  den : Nat
  closed : Bool

def neighbourhood (x : Binary64) : Neighbourhood :=
  let scale := Nat.pow 2 (x.exponent - 2).toNat
  let below := if x.mantissa = Nat.pow 2 52 && minExponent < x.exponent then 1 else 2
  { low := (4 * x.mantissa - below) * scale
    mid := 4 * x.mantissa * scale
    high := (4 * x.mantissa + 2) * scale
    den := Nat.pow 2 (2 - x.exponent).toNat
    closed := x.mantissa % 2 == 0 }

def Neighbourhood.holds (n : Neighbourhood) (num den : Nat) : Bool :=
  let value := num * n.den
  let low := n.low * den
  let high := n.high * den
  if n.closed then low ≤ value && value ≤ high else low < value && value < high

/-- The number of digits before the point, or minus the number of zeros right after it. -/
def Neighbourhood.magnitude (n : Neighbourhood) : Int :=
  if n.den ≤ n.mid then (Nat.toDigits 10 (n.mid / n.den)).length
  else
    match (List.range 400).find? fun zeros => n.den ≤ n.mid * Nat.pow 10 (zeros + 1) with
    | some zeros => -zeros
    | none => -400

/-- The decimal with `count` digits that is in the interval and nearest, if one is. -/
def Neighbourhood.onGrid? (n : Neighbourhood) (count : Nat) : Option Decimal :=
  let exponent := n.magnitude - count
  let up := Nat.pow 10 exponent.toNat
  let down := Nat.pow 10 (-exponent).toNat
  let floor := n.mid * down / (n.den * up)
  let lower := n.holds (floor * up) down
  let upper := n.holds ((floor + 1) * up) down
  let twice := 2 * (n.mid * down)
  let middle := (2 * floor + 1) * (n.den * up)
  if lower && upper then
    if twice < middle || (twice = middle && floor % 2 = 0) then some ⟨floor, exponent⟩
    else some ⟨floor + 1, exponent⟩
  else if lower then some ⟨floor, exponent⟩
  else if upper then some ⟨floor + 1, exponent⟩
  else none

/-- Moves up to `fuel` trailing zeros from the digits into the exponent. -/
def Decimal.strip : Nat → Decimal → Decimal
  | 0, d => d
  | fuel + 1, d =>
    if d.digits % 10 = 0 && d.digits ≠ 0 then strip fuel ⟨d.digits / 10, d.exponent + 1⟩ else d

/-- The shortest decimal for the absolute value. -/
def shortest (x : Binary64) : Decimal :=
  if x.mantissa = 0 then ⟨0, 0⟩
  else
    let n := x.neighbourhood
    match (List.range 17).findSome? fun count => n.onGrid? (count + 1) with
    | some d => d.strip 20
    | none => ⟨0, 0⟩

end WireCodecs.Binary64
