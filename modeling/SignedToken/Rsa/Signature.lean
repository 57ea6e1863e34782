import SignedToken.Der.Basic
import SignedToken.Hash.Sha2
import SignedToken.Rsa.Key

/-!
# Padded signatures

What is signed is the digest of the message with the name of the digest function, padded in front to
the size of the modulus.  A verifier computes the same padded digest and compares all of it.
-/

namespace SignedToken.Rsa

/-- The identifier of a digest function; the identifiers differ in their last byte. -/
def digestIdentifier (digest : Digest) : Bytes :=
  let last : Byte :=
    match digest with
    | .sha256 => 1
    | .sha384 => 2
    | .sha512 => 3
  [0x60, 0x86, 0x48, 0x01, 0x65, 0x03, 0x04, 0x02, last]

/-- The digest of a message together with the name of its function. -/
def digestInfo (digest : Digest) (message : Bytes) : Bytes :=
  let name := Der.sequence [.identifier (digestIdentifier digest), .null]
  (Der.sequence [name, .octets (digest.hash message)]).encode

def leastPadding : Nat := 11

/-- What is signed with a key of `size` bytes, unless that is too small. -/
def padded? (size : Nat) (digest : Digest) (message : Bytes) : Option Bytes :=
  let info := digestInfo digest message
  if size < info.length + leastPadding then none
  else some (0 :: 1 :: List.replicate (size - info.length - 3) 0xFF ++ 0 :: info)

def sign? (key : PrivateKey) (digest : Digest) (message : Bytes) : Option Bytes :=
  let size := key.publicKey.size
  (padded? size digest message).map fun block =>
    Bytes.ofNat size (Modular.pow key.parts.modulus (Bytes.toNat block) key.parts.secret)

/-- Whether a byte string is a signature of a message; no signature of a key that is not usable is
accepted. -/
def verify (key : PublicKey) (digest : Digest) (message signature : Bytes) : Bool :=
  let number := Bytes.toNat signature
  match padded? key.size digest message with
  | none => false
  | some block =>
    key.usable && signature.length == key.size && number < key.modulus &&
      Bytes.ofNat key.size (Modular.pow key.modulus number key.exponent) == block

end SignedToken.Rsa
