/-! Finite binary floating-point numbers with 53 bits of precision, as exact data: a sign, a
mantissa and a power of two. Every number comes out of one rounding of a ratio of natural numbers
to the nearest representable value, where a tie goes to the even mantissa. -/

namespace WireCodecs

/-- The value `mantissa * 2 ^ exponent`, negated if `negative`. The mantissa is below `2 ^ 53`, and
at least `2 ^ 52` unless the exponent is the least one. -/
structure Binary64 where
  negative : Bool
  mantissa : Nat
  exponent : Int
  deriving DecidableEq, Repr

namespace Binary64

def minExponent : Int := -1074

def maxExponent : Int := 971

def zero (negative : Bool) : Binary64 := ⟨negative, 0, minExponent⟩

section Rounding

/-- The nearest natural number to `num / den`; halves go to the even neighbour. -/
def roundDiv (num den : Nat) : Nat :=
  let quotient := num / den
  let rest := 2 * (num % den)
  if rest < den then quotient
  else if den < rest then quotient + 1
  else quotient + quotient % 2

/-- `num / den` divided by `2 ^ exponent`, as numerator and denominator. -/
def scaled (num den : Nat) (exponent : Int) : Nat × Nat :=
  (num * Nat.pow 2 (-exponent).toNat, den * Nat.pow 2 exponent.toNat)

/-- The exponent at which `num / den` has a mantissa of 53 bits, or the least exponent. -/
def exponentOf (num den : Nat) : Int :=
  let guess : Int := (Nat.log2 num : Int) - Nat.log2 den - 52
  let (n, d) := scaled num den guess
  max (if n < d * Nat.pow 2 52 then guess - 1 else guess) minExponent

/-- `num / den` rounded; nothing if that is beyond the largest number. -/
def ofRatio? (negative : Bool) (num den : Nat) : Option Binary64 :=
  if num = 0 then some (zero negative)
  else
    let exponent := exponentOf num den
    let (n, d) := scaled num den exponent
    let mantissa := roundDiv n d
    let (mantissa, exponent) :=
      if mantissa = Nat.pow 2 53 then (Nat.pow 2 52, exponent + 1) else (mantissa, exponent)
    if exponent ≤ maxExponent then some ⟨negative, mantissa, exponent⟩ else none

/-- `digits * 10 ^ exponent` rounded. Exponents far outside the range are settled by the number of
digits alone. -/
def ofDecimal? (negative : Bool) (digits : Nat) (exponent : Int) : Option Binary64 :=
  let magnitude : Int := (Nat.toDigits 10 digits).length + exponent
  if digits = 0 || magnitude < -400 then some (zero negative)
  else if 400 < magnitude then none
  else ofRatio? negative (digits * Nat.pow 10 exponent.toNat)
    (Nat.pow 10 (-exponent).toNat)

end Rounding

/-- The absolute value as numerator and denominator. -/
def ratio (x : Binary64) : Nat × Nat :=
  (x.mantissa * Nat.pow 2 x.exponent.toNat, Nat.pow 2 (-x.exponent).toNat)

def mul? (x y : Binary64) : Option Binary64 :=
  ofRatio? (x.negative != y.negative) (x.ratio.1 * y.ratio.1) (x.ratio.2 * y.ratio.2)

/-- The quotient, for a divisor other than zero. -/
def div? (x y : Binary64) : Option Binary64 :=
  ofRatio? (x.negative != y.negative) (x.ratio.1 * y.ratio.2) (x.ratio.2 * y.ratio.1)

def isInteger (x : Binary64) : Bool := x.ratio.1 % x.ratio.2 == 0

/-- The signed numerator over the denominator `ratio.2`. -/
def numerator (x : Binary64) : Int := if x.negative then -x.ratio.1 else x.ratio.1

end Binary64

end WireCodecs
