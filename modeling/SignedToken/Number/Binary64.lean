import SignedToken.Number.Power

/-!
# Double-precision numbers

A finite number is `mantissa * 2 ^ exponent` with a sign; zero keeps its sign too.  In normal form
the mantissa has 53 bits, or fewer at the least exponent.  Numbers arise by rounding a fraction to
the nearest double, a tie going to the even mantissa, and what is too large becomes infinite.
-/

namespace SignedToken

inductive Binary64 where
  | nan
  | infinite (negative : Bool)
  | finite (negative : Bool) (mantissa : Nat) (exponent : Int)
  deriving DecidableEq, Repr

namespace Binary64

def mantissaBits : Nat := 53

def leastExponent : Int := -1074

def greatestExponent : Int := 971

def zero (negative : Bool) : Binary64 := .finite negative 0 leastExponent

/-- The integer nearest to a fraction, a tie going to the even one. -/
def roundHalfEven (numerator denominator : Nat) : Nat :=
  let whole := numerator / denominator
  let twice := 2 * (numerator % denominator)
  if twice < denominator then whole
  else if twice = denominator ∧ whole % 2 = 0 then whole
  else whole + 1

def scale (numerator denominator : Nat) (exponent : Int) : Nat × Nat :=
  match exponent with
  | .ofNat shift => (numerator, denominator * Power.ofTwo shift)
  | .negSucc shift => (numerator * Power.ofTwo (shift + 1), denominator)

/-- The exponent at which a positive fraction has a mantissa of 53 bits, or the least exponent. -/
def exponentFor (numerator denominator : Nat) : Int :=
  let estimate : Int := numerator.log2 - denominator.log2 - (mantissaBits - 1 : Nat)
  let (above, below) := scale numerator denominator estimate
  let tooShort := above / below < Power.ofTwo (mantissaBits - 1)
  max leastExponent (if tooShort then estimate - 1 else estimate)

/-- The double nearest to a fraction with a positive denominator. -/
def ofRatio (negative : Bool) (numerator denominator : Nat) : Binary64 :=
  if numerator = 0 then zero negative
  else
    let exponent := exponentFor numerator denominator
    let (above, below) := scale numerator denominator exponent
    let mantissa := roundHalfEven above below
    let (mantissa, exponent) :=
      if mantissa = Power.ofTwo mantissaBits then (mantissa / 2, exponent + 1)
      else (mantissa, exponent)
    if exponent > greatestExponent then .infinite negative
    else if mantissa = 0 then zero negative
    else .finite negative mantissa exponent

/-- Decimal exponents beyond which every number is too large, or so small that it rounds to zero. -/
def decimalBound : Int := 400

/-- The double nearest to `digits * 10 ^ exponent`. -/
def ofDecimal (negative : Bool) (digits : Nat) (exponent : Int) : Binary64 :=
  let size : Int := (Nat.toDigits 10 digits).length + exponent
  if digits = 0 then zero negative
  else if size > decimalBound then .infinite negative
  else if size < -decimalBound then zero negative
  else
    match exponent with
    | .ofNat power => ofRatio negative (digits * Power.ofTen power) 1
    | .negSucc power => ofRatio negative digits (Power.ofTen (power + 1))

/-! ## Integers -/

def wordBits : Nat := 64

/-- Whether one of the lowest `bits` bits is set in one of the lowest `words` words of a number. -/
def lowBitSet (bits : Nat) : (words number : Nat) → Bool
  | 0, _ => false
  | words + 1, number =>
    number % Power.ofTwo bits != 0 || lowBitSet bits words (number / Power.ofTwo wordBits)

/-- The double for an integer.  Of a number of several words the 64 highest bits are rounded.  What
is below them only keeps their last bit from being taken for zero, and of each lower word only as
many bits are looked at as the highest word has. -/
def ofInt (number : Int) : Binary64 :=
  let size := number.natAbs
  let bits := if size = 0 then 0 else size.log2 + 1
  let below := bits - wordBits
  let highest := (bits - 1) % wordBits + 1
  let lead := size / Power.ofTwo below
  let lead :=
    if below > 0 && lowBitSet highest ((bits - 1) / wordBits) size then lead / 2 * 2 + 1 else lead
  ofRatio (number < 0) (lead * Power.ofTwo below) 1

/-- The integer that a double is equal to, if it has no fraction. -/
def toInt? : Binary64 → Option Int
  | .finite negative mantissa exponent =>
    let magnitude :=
      match exponent with
      | .ofNat shift => some (mantissa * Power.ofTwo shift)
      | .negSucc shift =>
        let divisor := Power.ofTwo (shift + 1)
        if mantissa % divisor = 0 then some (mantissa / divisor) else none
    magnitude.map fun size => if negative then -(size : Int) else size
  | _ => none

def isBelow (bound : Nat) : Binary64 → Bool
  | .finite negative mantissa exponent =>
    negative ||
      match exponent with
      | .ofNat shift => mantissa * Power.ofTwo shift < bound
      | .negSucc shift => mantissa < bound * Power.ofTwo (shift + 1)
  | .infinite negative => negative
  | .nan => false

end Binary64

end SignedToken
