import SignedToken.Arith.Prime

/-!
# Key pairs from two primes

A public key is a modulus with an odd exponent of at least three.  A private key holds the two odd
primes of the modulus, the exponent that undoes the public one, and three numbers that follow from
these; it is only made if all its numbers fit together.
-/

namespace SignedToken.Rsa

def publicSound (modulus exponent : Nat) : Bool :=
  0 < modulus && 3 ≤ exponent && exponent % 2 == 1

structure PublicKey where
  modulus : Nat
  exponent : Nat
  sound : publicSound modulus exponent = true

structure Parts where
  modulus : Nat
  exponent : Nat
  secret : Nat
  first : Nat
  second : Nat
  /-- The secret exponent modulo each prime less one. -/
  firstSecret : Nat
  secondSecret : Nat
  /-- The inverse of the second prime modulo the first. -/
  coefficient : Nat
  deriving DecidableEq, Repr

/-- Whether the numbers of a private key fit together. -/
def Parts.consistent (parts : Parts) : Bool :=
  publicSound parts.modulus parts.exponent &&
    parts.modulus == parts.first * parts.second &&
    parts.secret * parts.exponent % Nat.lcm (parts.first - 1) (parts.second - 1) ==
      1 % Nat.lcm (parts.first - 1) (parts.second - 1) &&
    parts.firstSecret == parts.secret % (parts.first - 1) &&
    parts.secondSecret == parts.secret % (parts.second - 1) &&
    parts.coefficient < parts.first &&
    parts.coefficient * parts.second % parts.first == 1 % parts.first &&
    Prime.isPrime parts.first && Prime.isPrime parts.second &&
    parts.first % 2 == 1 && parts.second % 2 == 1

structure PrivateKey where
  parts : Parts
  sound : parts.consistent = true

def PublicKey.make? (modulus exponent : Nat) : Option PublicKey :=
  if h : publicSound modulus exponent = true then some ⟨modulus, exponent, h⟩ else none

def PrivateKey.make? (parts : Parts) : Option PrivateKey :=
  if h : parts.consistent = true then some ⟨parts, h⟩ else none

theorem Parts.publicSound_of_consistent {parts : Parts} (h : parts.consistent = true) :
    publicSound parts.modulus parts.exponent = true := by
  simp only [Parts.consistent, Bool.and_eq_true] at h
  exact h.1.1.1.1.1.1.1.1.1.1

def PrivateKey.publicKey (key : PrivateKey) : PublicKey :=
  ⟨key.parts.modulus, key.parts.exponent, Parts.publicSound_of_consistent key.sound⟩

/-- The number of bytes of a signature. -/
def PublicKey.size (key : PublicKey) : Nat := Bytes.bytesFor (Bytes.bitLength key.modulus)

/-- The largest number of bits of a modulus that is used for verifying. -/
def mostBits : Nat := 16384

/-- Up to this number of bits a modulus is small; with larger ones only small exponents are used. -/
def smallBits : Nat := 3072

def smallExponentBits : Nat := 64

/-- Whether a key is used for verifying: the modulus is odd and not too large, and the exponent is
below it and small, unless the modulus is small. -/
def PublicKey.usable (key : PublicKey) : Bool :=
  let bits := Bytes.bitLength key.modulus
  key.modulus % 2 == 1 && bits ≤ mostBits && key.exponent < key.modulus &&
    (bits ≤ smallBits || Bytes.bitLength key.exponent ≤ smallExponentBits)

end SignedToken.Rsa
