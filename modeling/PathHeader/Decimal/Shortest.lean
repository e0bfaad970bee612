import PathHeader.Text.Basic
import PathHeader.Decimal.Binary64

/-! The fewest decimal digits that read back as the same binary value, the nearest of those, and
their positional text. -/
namespace PathHeader.Decimal

/-- `digits` times ten to the power. -/
structure Numeral where
  digits : Nat
  power : Int
  deriving Repr, DecidableEq

/-- The fractions that round to a finite value, over one denominator. The ends belong to them when
the significand is even. -/
structure Interval where
  low : Nat
  value : Nat
  high : Nat
  den : Nat
  closed : Bool

namespace Interval

/-- Below a power of two the neighbours are half as far away. -/
def ofFinite (significand : Nat) (exponent : Int) : Interval :=
  let down := if significand = Nat.pow 2 52 ∧ Binary64.minExponent < exponent then 1 else 2
  let (unit, den) := Binary64.scaled 1 1 (2 - exponent)
  { low := (4 * significand - down) * unit, value := 4 * significand * unit,
    high := (4 * significand + 2) * unit, den, closed := significand % 2 == 0 }

/-- Whether the fraction with this numerator, over `scale` times the denominator, is inside. -/
def holds (i : Interval) (num scale : Nat) : Bool :=
  if i.closed then i.low * scale ≤ num && num ≤ i.high * scale
  else i.low * scale < num && num < i.high * scale

def firstPower (i : Interval) : Int :=
  let guess : Int := (Nat.toDigits 10 i.value).length - (Nat.toDigits 10 i.den).length
  let factor := Nat.pow 10 guess.natAbs
  let reached := if guess < 0 then i.den ≤ i.value * factor else i.den * factor ≤ i.value
  if reached then guess else guess - 1

/-- The better of the value's two neighbours among the multiples of a power of ten, if one is
inside; halfway between the two it is the upper one. -/
def onGrid (i : Interval) (power : Int) : Option Numeral :=
  let factor := Nat.pow 10 power.natAbs
  let (step, scale) := if power < 0 then (i.den, factor) else (i.den * factor, 1)
  let below := i.value * scale / step
  let above := below + 1
  let lower := i.holds (below * step) scale
  let upper := i.holds (above * step) scale
  if lower && (!upper || 2 * (i.value * scale % step) < step) then some ⟨below, power⟩
  else if upper then some ⟨above, power⟩
  else none

/-- Seventeen digits always suffice, so the last grid is only a formality. -/
def shortest (i : Interval) : Numeral :=
  let first := i.firstPower
  let grids := (List.range 17).map fun more : Nat => first - more
  (grids.findSome? i.onGrid).getD ⟨i.value / i.den, 0⟩

end Interval

namespace Numeral

def dropZeros : Nat → Nat → Nat → Nat × Nat
  | 0, digits, places => (digits, places)
  | fuel + 1, digits, places =>
    if places = 0 ∨ digits % 10 ≠ 0 then (digits, places)
    else dropZeros fuel (digits / 10) (places - 1)

/-- Positional text; a point stands only before a fraction. -/
def text (n : Numeral) : Text :=
  if 0 ≤ n.power then Text.ofNat (n.digits * Nat.pow 10 n.power.natAbs)
  else
    let (digits, places) := dropZeros n.power.natAbs n.digits n.power.natAbs
    let shown := Text.ofNat digits
    let padded := List.replicate (places + 1 - shown.length) '0' ++ shown
    let whole := padded.take (padded.length - places)
    if places = 0 then whole else whole ++ '.' :: padded.drop (padded.length - places)

end Numeral

namespace Binary64

/-- The text of a value: never an exponent, and a finite value always shows a point. -/
def text : Binary64 → Text
  | .nan => "NaN".toList
  | .infinite negative => (if negative then ['-'] else []) ++ "inf".toList
  | .finite negative significand exponent =>
    let shown :=
      if significand = 0 then ['0'] else (Interval.ofFinite significand exponent).shortest.text
    (if negative then ['-'] else []) ++ if '.' ∈ shown then shown else shown ++ ['.', '0']

end Binary64

end PathHeader.Decimal
