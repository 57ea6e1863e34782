import SignedToken.Number.Binary64

/-!
# The shortest decimal of a double

Of the decimals that round to a given double, the shortest ones have the fewest digits, and of those
the nearest is written.  A decimal rounds to the double if it lies between the midpoints to the
double's two neighbours; the midpoints themselves count if the mantissa is even, since ties go to
the even mantissa.  On the grid of decimals of one length only the two points next to the double
have to be tried.
-/

namespace SignedToken.Shortest

structure Decimal where
  digits : Nat
  exponent : Int
  deriving DecidableEq, Repr

/-- The numbers that round to one double, in quarters of its last place: the interval runs from
`low` to `high` around `value`, and its ends belong to it if `closed`. -/
structure Interval where
  low : Nat
  value : Nat
  high : Nat
  closed : Bool

/-- The interval of a double; below a power of two the neighbours are half as far apart. -/
def interval (mantissa : Nat) (exponent : Int) : Interval where
  low :=
    if mantissa = Power.ofTwo (Binary64.mantissaBits - 1) ∧ exponent > Binary64.leastExponent then
      4 * mantissa - 1
    else 4 * mantissa - 2
  value := 4 * mantissa
  high := 4 * mantissa + 2
  closed := mantissa % 2 = 0

def leadingExponent (numerator denominator : Nat) : Int :=
  if denominator ≤ numerator then (Nat.toDigits 10 (numerator / denominator)).length - 1
  else
    let width := (Nat.toDigits 10 (denominator / numerator)).length
    if numerator * Power.ofTen (width - 1) = denominator then -((width - 1 : Nat) : Int)
    else -(width : Int)

def scaleTen (numerator denominator : Nat) (exponent : Int) : Nat × Nat :=
  match exponent with
  | .ofNat power => (numerator, denominator * Power.ofTen power)
  | .negSucc power => (numerator * Power.ofTen (power + 1), denominator)

/-- The nearest decimal with the given last place that lies in the interval.  The interval is
measured in units of `unit`, a fraction. -/
def onGrid (range : Interval) (unit : Nat × Nat) (lastPlace : Int) : Option Decimal :=
  let (above, below) := scaleTen unit.1 unit.2 lastPlace
  let lower := range.value * above / below
  let inside (point : Nat) : Bool :=
    let position := point * below
    if range.closed then range.low * above ≤ position && position ≤ range.high * above
    else range.low * above < position && position < range.high * above
  let distanceBelow := range.value * above - lower * below
  let distanceAbove := (lower + 1) * below - range.value * above
  let pick (point : Nat) : Option Decimal := some ⟨point, lastPlace⟩
  if inside lower && inside (lower + 1) then
    if distanceBelow < distanceAbove || (distanceBelow == distanceAbove && lower % 2 == 0) then
      pick lower
    else pick (lower + 1)
  else if inside lower then pick lower
  else if inside (lower + 1) then pick (lower + 1)
  else none

/-- Seventeen digits always tell two doubles apart. -/
def mostDigits : Nat := 17

/-- The shortest decimal that rounds to a positive finite double. -/
def shortest (mantissa : Nat) (exponent : Int) : Decimal :=
  let range := interval mantissa exponent
  let unit : Nat × Nat := Binary64.scale 1 1 (-(exponent - 2))
  let leading := leadingExponent (range.value * unit.1) unit.2
  let hits := (List.range mostDigits).filterMap fun (more : Nat) =>
    onGrid range unit (leading - (more : Int))
  hits.headD ⟨0, 0⟩

/-- A decimal without zeros at its end; `fuel` bounds their number. -/
def Decimal.trim (decimal : Decimal) : (fuel : Nat) → Decimal
  | 0 => decimal
  | fuel + 1 =>
    if decimal.digits % 10 = 0 ∧ decimal.digits ≠ 0 then
      Decimal.trim ⟨decimal.digits / 10, decimal.exponent + 1⟩ fuel
    else decimal

end SignedToken.Shortest
