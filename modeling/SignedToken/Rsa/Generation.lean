import SignedToken.Hash.Hmac
import SignedToken.Number.Power
import SignedToken.Rsa.Key

/-!
# Making key pairs

A key follows from a seed: each prime is the first one at or after a number that the seed gives.
The two highest bits of that number are set, so that the product has exactly the wanted size.
-/

namespace SignedToken.Rsa

def publicExponent : Nat := 65537

def defaultBits : Nat := 2048

def leastBits : Nat := 1024

/-- As many bytes as are asked for, in blocks of a keyed digest. -/
def stream (seed : Bytes) (label : Byte) (size : Nat) : Bytes :=
  let blocks := (List.range (size / Digest.sha512.size + 1)).flatMap fun block =>
    Hmac.mac .sha512 seed (label :: Bytes.ofNat 4 block)
  blocks.take size

/-- An odd number of exactly `bits` bits with its two highest bits set. -/
def startingPoint (seed : Bytes) (label : Byte) (bits : Nat) : Nat :=
  let unit := Power.ofTwo (bits - 2)
  let low := Bytes.toNat (stream seed label (Bytes.bytesFor bits)) % unit
  (3 * unit + low) / 2 * 2 + 1

/-- The first prime from an odd number on for which the public exponent has an inverse. -/
def searchPrime : (fuel candidate : Nat) → Option Nat
  | 0, _ => none
  | fuel + 1, candidate =>
    if candidate % publicExponent ≠ 1 ∧ Prime.isPrime candidate then some candidate
    else searchPrime fuel (candidate + 2)

/-- The numbers of the key with two given primes. -/
def Parts.ofPrimes? (first second : Nat) : Option Parts := do
  let secret ← Modular.inverse? (Nat.lcm (first - 1) (second - 1)) publicExponent
  let coefficient ← Modular.inverse? first second
  some ⟨first * second, publicExponent, secret, first, second, secret % (first - 1),
    secret % (second - 1), coefficient⟩

def generate? (bits : Nat) (seed : Bytes) : Option PrivateKey :=
  if bits < leastBits then none
  else do
    let fuel := 100 * bits
    let first ← searchPrime fuel (startingPoint seed 1 (bits - bits / 2))
    let second ← searchPrime fuel (startingPoint seed 2 (bits / 2))
    let parts ← Parts.ofPrimes? first second
    PrivateKey.make? parts

end SignedToken.Rsa
