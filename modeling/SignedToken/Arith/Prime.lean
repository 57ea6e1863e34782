import SignedToken.Arith.Modular
import SignedToken.Hash.Sha2

/-!
# Prime numbers

A number is taken for a prime if no small prime divides it and it passes a strong test to several
bases.  For each base there are composite numbers that pass, so the bases depend on the number
itself: they are digests of it, and nobody can choose a number to suit them.
-/

namespace SignedToken.Prime

def small : List Nat :=
  [2, 3, 5, 7, 11, 13, 17, 19, 23, 29, 31, 37, 41, 43, 47, 53, 59, 61, 67, 71, 73, 79, 83, 89, 97]

def rounds : Nat := 16

/-- A base for the strong test of a number, other than one and minus one. -/
def base (number round : Nat) : Nat :=
  let digest := Digest.sha512.hash (UInt8.ofNat round :: Bytes.minimal number)
  Bytes.toNat digest % (number - 3) + 2

/-- Whether minus one turns up among a number and its next `squarings` squares. -/
def reachesMinusOne (modulus : Nat) : (squarings number : Nat) → Bool
  | 0, _ => false
  | squarings + 1, number =>
    number == modulus - 1 || reachesMinusOne modulus squarings (number * number % modulus)

/-- The strong test of a number to one base: the last square root of one on the way is one itself
from the start, or minus one. -/
def passes (number : Nat) (base : Nat) : Bool :=
  let (odd, twos) := Modular.splitTwos (Bytes.bitLength number) (number - 1)
  let power := Modular.pow number base odd
  power == 1 || reachesMinusOne number twos power

def isPrime (number : Nat) : Bool :=
  if small.contains number then true
  else
    number > 1 && small.all (number % · ≠ 0) && passes number 2 &&
      (List.range rounds).all fun round => passes number (base number round)

end SignedToken.Prime
