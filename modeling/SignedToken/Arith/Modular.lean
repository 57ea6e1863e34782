import SignedToken.Bytes

/-!
# Arithmetic modulo a number

Powers by repeated squaring, inverses by the extended algorithm of division with remainder, and
square roots modulo a prime.
-/

namespace SignedToken.Modular

/-- The power of a base with the lowest `bits` bits of an exponent. -/
def powBits (modulus base : Nat) : (bits exponent : Nat) → Nat
  | 0, _ => 1 % modulus
  | bits + 1, exponent =>
    let half := powBits modulus base bits (exponent / 2)
    let square := half * half % modulus
    if exponent % 2 = 1 then square * base % modulus else square

def pow (modulus base exponent : Nat) : Nat :=
  powBits modulus base (Bytes.bitLength exponent) exponent

def sub (modulus left right : Nat) : Nat := (left + (modulus - right)) % modulus

/-- Divides with remainder until the remainder is zero.  With each remainder goes the factor by
which the number to be inverted is congruent to it; `fuel` bounds the number of divisions. -/
def invertFrom : (fuel : Nat) → (remainder next factor following : Int) → Int × Int
  | 0, remainder, _, factor, _ => (remainder, factor)
  | fuel + 1, remainder, next, factor, following =>
    if next = 0 then (remainder, factor)
    else
      let quotient := remainder / next
      invertFrom fuel next (remainder - quotient * next) following (factor - quotient * following)

/-- The inverse of a number modulo another; there is one if the two have no common factor.  The
result is checked, so that it is an inverse whatever the way to it. -/
def inverse? (modulus number : Nat) : Option Nat :=
  let fuel := 2 * Bytes.bitLength modulus + 2
  let (_, factor) := invertFrom fuel modulus (number % modulus) 0 1
  let candidate := (factor % (modulus : Int)).toNat
  if number * candidate % modulus = 1 % modulus then some candidate else none

/-- Writes a number as an odd number times a power of two; `fuel` bounds the exponent. -/
def splitTwos : (fuel number : Nat) → Nat × Nat
  | 0, number => (number, 0)
  | fuel + 1, number =>
    if number % 2 = 1 ∨ number = 0 then (number, 0)
    else
      let (odd, twos) := splitTwos fuel (number / 2)
      (odd, twos + 1)

/-- The number of squarings after which a number is one; there are at most `fuel`. -/
def squaringsToOne (modulus : Nat) : (fuel number : Nat) → Nat
  | 0, _ => 0
  | fuel + 1, number =>
    if number = 1 then 0 else squaringsToOne modulus fuel (number * number % modulus) + 1

def squareTimes (modulus : Nat) : (times number : Nat) → Nat
  | 0, number => number
  | times + 1, number => squareTimes modulus times (number * number % modulus)

/-- Improves a root until its error is one.  The error is a power of `generator`, whose order is two
to the power `order`. -/
def improveRoot (modulus : Nat) : (fuel order generator error root : Nat) → Nat
  | 0, _, _, _, root => root
  | fuel + 1, order, generator, error, root =>
    if error = 1 then root
    else
      let steps := squaringsToOne modulus order error
      let factor := squareTimes modulus (order - steps - 1) generator
      let square := factor * factor % modulus
      improveRoot modulus fuel steps square (error * square % modulus) (root * factor % modulus)

/-- The least number above one that is no square modulo a prime; `fuel` bounds the search. -/
def leastNonSquare (modulus : Nat) : (fuel candidate : Nat) → Nat
  | 0, candidate => candidate
  | fuel + 1, candidate =>
    if pow modulus candidate ((modulus - 1) / 2) = modulus - 1 then candidate
    else leastNonSquare modulus fuel (candidate + 1)

/-- A square root modulo an odd prime, checked by squaring it. -/
def squareRoot? (modulus number : Nat) : Option Nat :=
  let (odd, twos) := splitTwos (Bytes.bitLength modulus) (modulus - 1)
  let generator := pow modulus (leastNonSquare modulus 1000 2) odd
  let root := pow modulus number ((odd + 1) / 2)
  let error := pow modulus number odd
  let candidate := improveRoot modulus (twos + 1) twos generator error root
  if candidate * candidate % modulus = number % modulus then some candidate else none

end SignedToken.Modular
