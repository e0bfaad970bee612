/-! Binary floating point of 64 bits in exact arithmetic: the value nearest to a decimal, with an
even significand where two are equally near. -/
namespace PathHeader.Decimal

/-- A finite value is the significand times two to the exponent. -/
inductive Binary64
  | finite (negative : Bool) (significand : Nat) (exponent : Int)
  | infinite (negative : Bool)
  | nan
  deriving Repr, DecidableEq

namespace Binary64

/-- The least exponent; smaller values have fewer significant bits. -/
def minExponent : Int := -1074

def maxExponent : Int := 971

def precision : Nat := 53

/-- The whole number nearest to a fraction; halves go to the even neighbour. -/
def roundDiv (num den : Nat) : Nat :=
  let quotient := num / den
  let twice := 2 * (num % den)
  if twice < den || (twice == den && quotient % 2 == 0) then quotient else quotient + 1

/-- The fraction over two to the exponent, as a fraction. -/
def scaled (num den : Nat) (exponent : Int) : Nat × Nat :=
  let factor := Nat.pow 2 exponent.natAbs
  if exponent < 0 then (num * factor, den) else (num, den * factor)

/-- The exponent at which the fraction has exactly the full precision, or the least one. -/
def exponentOf (num den : Nat) : Int :=
  let guess := max minExponent ((num.log2 : Int) - den.log2 - precision)
  let (n, d) := scaled num den guess
  if n / d < Nat.pow 2 precision then guess else guess + 1

def ofFraction (negative : Bool) (num den : Nat) : Binary64 :=
  let exponent := exponentOf num den
  let (n, d) := scaled num den exponent
  let rounded := roundDiv n d
  let (significand, exponent) :=
    if rounded < Nat.pow 2 precision then (rounded, exponent) else (rounded / 2, exponent + 1)
  if maxExponent < exponent then .infinite negative
  else .finite negative significand exponent

def zero (negative : Bool) : Binary64 := .finite negative 0 minExponent

/-- The value nearest to `digits` times ten to the power. Powers far out of range are answered
without being computed. -/
def ofDecimal (negative : Bool) (digits : Nat) (power : Int) : Binary64 :=
  let width : Int := (Nat.toDigits 10 digits).length
  if digits = 0 then zero negative
  else if power + width > 310 then .infinite negative
  else if power + width < -330 then zero negative
  else if power < 0 then ofFraction negative digits (Nat.pow 10 power.natAbs)
  else ofFraction negative (digits * Nat.pow 10 power.natAbs) 1

end Binary64

end PathHeader.Decimal
