import SignedToken.Curve.Point
import SignedToken.Hash.Hmac

/-!
# Signatures on a curve

A signature is a pair of numbers below the order of the curve, written one after the other at the
width of a coordinate.  A verifier accepts it if a point that it computes from the pair, the digest
of the message and the public point has the first number as its first coordinate.
-/

namespace SignedToken.Curve

structure PublicKey where
  curve : Curve
  point : Point
  onCurve : contains curve.params point = true

/-- A scalar with its multiple of the base point. -/
structure PrivateKey where
  publicKey : PublicKey
  scalar : Nat
  inRange : 0 < scalar ∧ scalar < publicKey.curve.params.order
  matching : publicPoint? publicKey.curve.params scalar = some publicKey.point

def PublicKey.make? (curve : Curve) (point : Point) : Option PublicKey :=
  if h : contains curve.params point = true then some ⟨curve, point, h⟩ else none

/-- The private key of a scalar and a point, if the two belong together. -/
def PrivateKey.make? (curve : Curve) (scalar : Nat) (point : Point) : Option PrivateKey :=
  if onCurve : contains curve.params point = true then
    if inRange : 0 < scalar ∧ scalar < curve.params.order then
      if matching : publicPoint? curve.params scalar = some point then
        some ⟨⟨curve, point, onCurve⟩, scalar, inRange, matching⟩
      else none
    else none
  else none

def PrivateKey.ofScalar? (curve : Curve) (scalar : Nat) : Option PrivateKey := do
  let point ← publicPoint? curve.params scalar
  PrivateKey.make? curve scalar point

/-- The digest of a message as a number; no digest has more bits than the order of its curve. -/
def messageNumber (digest : Digest) (message : Bytes) : Nat := Bytes.toNat (digest.hash message)

def inGroup (params : Params) (number : Nat) : Bool := 0 < number && number < params.order

/-- Whether a pair of numbers is a signature of a message number. -/
def accepts (key : PublicKey) (number r s : Nat) : Bool :=
  let params := key.curve.params
  if inGroup params r && inGroup params s then
    match Modular.inverse? params.order s with
    | none => false
    | some inverse =>
      let fromBase :=
        Projective.scale params (number * inverse % params.order) (.ofPoint (base params))
      let fromKey := Projective.scale params (r * inverse % params.order) (.ofPoint key.point)
      match (Projective.add params fromBase fromKey).toPoint? params with
      | some point => point.x % params.order == r
      | none => false
  else false

def verify (key : PublicKey) (digest : Digest) (message signature : Bytes) : Bool :=
  let size := key.curve.size
  signature.length == 2 * size &&
    accepts key (messageNumber digest message) (Bytes.toNat (signature.take size))
      (Bytes.toNat (signature.drop size))

/-! ## Signing -/

/-- A number from a secret and a message, in the group of a curve. -/
def derive (params : Params) (secret message : Bytes) : Nat :=
  let wide := Hmac.mac .sha512 secret (0 :: message) ++ Hmac.mac .sha512 secret (1 :: message)
  Bytes.toNat wide % (params.order - 1) + 1

/-- The pair that signs a message number with a nonce, if neither number comes out as zero. -/
def pair? (key : PrivateKey) (nonce number : Nat) : Option (Nat × Nat) := do
  let params := key.publicKey.curve.params
  let point ← publicPoint? params nonce
  let inverse ← Modular.inverse? params.order nonce
  let r := point.x % params.order
  let s := (number + r * key.scalar) % params.order * inverse % params.order
  if r = 0 ∨ s = 0 then none else some (r, s)

/-- The first pair that one of the nonces for `attempts` gives.  Zeros, which no verifier accepts,
stand for the case that none does; already the first nonce fails next to never. -/
def pairFrom (key : PrivateKey) (message : Bytes) (number : Nat) : (attempts : Nat) → Nat × Nat
  | 0 => (0, 0)
  | attempts + 1 =>
    let params := key.publicKey.curve.params
    let secret := Bytes.ofNat key.publicKey.curve.size key.scalar
    let nonce := derive params secret (UInt8.ofNat attempts :: message)
    match pair? key nonce number with
    | some pair => pair
    | none => pairFrom key message number attempts

def nonceAttempts : Nat := 8

/-- The signature of a message; the nonce follows from the key and the message. -/
def sign (key : PrivateKey) (digest : Digest) (message : Bytes) : Bytes :=
  let size := key.publicKey.curve.size
  let (r, s) := pairFrom key message (messageNumber digest message) nonceAttempts
  Bytes.ofNat size r ++ Bytes.ofNat size s

def generate? (curve : Curve) (seed : Bytes) : Option PrivateKey :=
  PrivateKey.ofScalar? curve (derive curve.params seed [])

end SignedToken.Curve
