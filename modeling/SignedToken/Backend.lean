import SignedToken.Header.Basic
import SignedToken.Key.Export
import SignedToken.Key.Loader
import SignedToken.Recognition
import SignedToken.Rsa.Generation
import SignedToken.Rsa.Signature
import SignedToken.Secret

/-!
# Keys bound to algorithms

A backend is a key bound to one algorithm, which has to be enabled when the backend is made.  With a
secret or a private key it signs and verifies, with a public key it only verifies.  A key on a curve
fits only the algorithm of its curve.
-/

namespace SignedToken

/-- A kind of backend: its algorithm, and whether it only verifies. -/
structure BackendKind where
  algorithm : Algorithm
  onlyVerifies : Bool
  deriving DecidableEq, Repr

namespace BackendKind

def name (kind : BackendKind) : String :=
  kind.algorithm.name ++ if kind.onlyVerifies then "Public" else ""

/-- All kinds; a secret has no public half. -/
def all : List BackendKind :=
  Algorithm.all.flatMap fun algorithm =>
    if algorithm.family.needsKeyPairs then [⟨algorithm, false⟩, ⟨algorithm, true⟩]
    else [⟨algorithm, false⟩]

def named? (name : String) : Option BackendKind := all.find? (·.name == name)

end BackendKind

inductive Backend where
  | secret (digest : Digest) (key : Bytes)
  | rsaPrivate (digest : Digest) (key : Rsa.PrivateKey)
  | rsaPublic (digest : Digest) (key : Rsa.PublicKey)
  | curvePrivate (digest : Digest) (key : Curve.PrivateKey)
    (fits : key.publicKey.curve = Curve.ofDigest digest)
  | curvePublic (digest : Digest) (key : Curve.PublicKey) (fits : key.curve = Curve.ofDigest digest)

inductive Material where
  | privateKey (key : Key.Private)
  | publicKey (key : Key.Public)
  | value (value : Value)

def Material.kindName : Material → String
  | .privateKey key => key.kindName
  | .publicKey key => key.kindName
  | .value content => content.kindName

namespace Backend

def kind : Backend → BackendKind
  | .secret digest _ => ⟨⟨.hmac, digest⟩, false⟩
  | .rsaPrivate digest _ => ⟨⟨.rsa, digest⟩, false⟩
  | .rsaPublic digest _ => ⟨⟨.rsa, digest⟩, true⟩
  | .curvePrivate digest _ _ => ⟨⟨.ecdsa, digest⟩, false⟩
  | .curvePublic digest _ _ => ⟨⟨.ecdsa, digest⟩, true⟩

def algorithm (backend : Backend) : Algorithm := backend.kind.algorithm

def name (backend : Backend) : String := backend.kind.name

def keyBits? : Backend → Option Nat
  | .secret _ _ => none
  | .rsaPrivate _ key => some (Bytes.bitLength key.parts.modulus)
  | .rsaPublic _ key => some (Bytes.bitLength key.modulus)
  | .curvePrivate _ key _ => some key.publicKey.curve.bits
  | .curvePublic _ key _ => some key.curve.bits

/-! ## Making backends -/

def ofCurvePrivate (digest : Digest) (key : Curve.PrivateKey) : Except KeyFailure Backend :=
  if fits : key.publicKey.curve = Curve.ofDigest digest then .ok (.curvePrivate digest key fits)
  else
    .error (.wrongCurve ⟨.ecdsa, digest⟩ (Curve.ofDigest digest).name key.publicKey.curve.name)

def ofCurvePublic (digest : Digest) (key : Curve.PublicKey) : Except KeyFailure Backend :=
  if fits : key.curve = Curve.ofDigest digest then .ok (.curvePublic digest key fits)
  else .error (.wrongCurve ⟨.ecdsa, digest⟩ (Curve.ofDigest digest).name key.curve.name)

/-- Binds material to a kind, if it is what the kind needs. -/
def bind (kind : BackendKind) (material : Material) : Except Failure Backend :=
  let digest := kind.algorithm.digest
  match kind.algorithm.family, kind.onlyVerifies, material with
  | .hmac, _, .value value => (Secret.ofValue value).map (.secret digest)
  | .hmac, _, other => .error (.key .hmac (.secretKind other.kindName))
  | .rsa, false, .privateKey (.rsa key) => .ok (.rsaPrivate digest key)
  | .rsa, true, .publicKey (.rsa key) => .ok (.rsaPublic digest key)
  | .ecdsa, false, .privateKey (.curve key) => (ofCurvePrivate digest key).mapError (.key .ecdsa)
  | .ecdsa, true, .publicKey (.curve key) => (ofCurvePublic digest key).mapError (.key .ecdsa)
  | family, false, other => .error (.key family (.notPrivate other.kindName))
  | family, true, other => .error (.key family (.notPublic other.kindName))

/-- The backend of a kind with some material.  The algorithm must be enabled, whatever the material
is. -/
def make (registry : Registry) (kind : BackendKind) (material : Material) :
    Except Failure Backend :=
  match registry.require kind.algorithm with
  | .error failure => .error failure
  | .ok () => bind kind material

/-! ## Key files -/

/-- The bytes of a key file, which is given as ASCII text or as bytes. -/
def fileBytes : Value → Except KeyFailure Bytes
  | .text content =>
    match content.toString? >>= Ascii.encode with
    | some bytes => .ok bytes
    | none => .error .pemNotAscii
  | .bytes content => .ok content
  | value => .error (.pemKind value.kindName)

/-- How the readers of key files go on when the loader raises an error. -/
structure FaultHandler where
  /-- The kinds of error that are taken up. -/
  caught : List ErrorKind
  /-- What is said instead of an error that is taken up. -/
  refusal : KeyFailure

/-- Private keys may be encrypted, so the loader may find its arguments wrong. -/
def onPrivate : FaultHandler :=
  ⟨[.valueError, .typeError, .unsupportedAlgorithm], .unreadablePrivate⟩

def onPublic : FaultHandler := ⟨[.valueError, .unsupportedAlgorithm], .unreadablePublic⟩

/-- What comes of loading a key for a family. -/
def FaultHandler.run {α : Type} (handler : FaultHandler) (family : Family) :
    Except LoadFault α → Except Failure α
  | .ok key => .ok key
  | .error fault =>
    if handler.caught.any fault.kind.isCaseOf then .error (.key family handler.refusal)
    else .error (.load fault)

def readKey {α : Type} (handler : FaultHandler) (load : Bytes → Except LoadFault α)
    (family : Family) (file : Value) : Except Failure α :=
  match fileBytes file with
  | .error failure => .error (.key family failure)
  | .ok bytes => handler.run family (load bytes)

def readPrivate (family : Family) (file : Value) : Except Failure Key.Private :=
  readKey onPrivate Key.loadPrivate family file

def readPublic (family : Family) (file : Value) : Except Failure Key.Public :=
  readKey onPublic Key.loadPublic family file

def readMaterial (kind : BackendKind) (file : Value) : Except Failure Material :=
  if kind.onlyVerifies then (readPublic kind.algorithm.family file).map .publicKey
  else (readPrivate kind.algorithm.family file).map .privateKey

/-- The backend of a kind with the key in a file. -/
def ofFile (registry : Registry) (kind : BackendKind) (file : Value) : Except Failure Backend :=
  match readMaterial kind file with
  | .ok material => make registry kind material
  | .error failure => .error failure

def toFile? : Backend → Option Bytes
  | .secret _ _ => none
  | .rsaPrivate _ key => some (Key.rsaPrivateToPem key)
  | .rsaPublic _ key => some (Key.rsaPublicToPem key)
  | .curvePrivate _ key _ => some (Key.curvePrivateToPem key)
  | .curvePublic _ key _ => some (Key.curvePublicToPem key)

/-! ## New keys -/

/-- The length of a fresh secret: one block of the digest function. -/
def secretSize (algorithm : Algorithm) : Nat := algorithm.digest.blockSize

/-- Fresh material from a seed; only keys from two primes come in several sizes. -/
def freshMaterial (algorithm : Algorithm) (bits : Nat) (seed : Bytes) : Except Failure Material :=
  let made : Option Material :=
    match algorithm.family with
    | .hmac => some (.value (.bytes (Rsa.stream seed 0 (secretSize algorithm))))
    | .rsa => (Rsa.generate? bits seed).map fun key => .privateKey (.rsa key)
    | .ecdsa =>
      let curve := Curve.ofDigest algorithm.digest
      (Curve.generate? curve seed).map fun key => .privateKey (.curve key)
  match made with
  | some material => .ok material
  | none => .error (.key algorithm.family .notGenerated)

/-! ## Use -/

def publicMaterial? : Backend → Option Material
  | .rsaPrivate _ key => some (.publicKey (.rsa key.publicKey))
  | .curvePrivate _ key _ => some (.publicKey (.curve key.publicKey))
  | _ => none

/-- The backend that verifies what this one signs and cannot sign itself. -/
def publicHalf (registry : Registry) (backend : Backend) : Except Failure Backend :=
  match backend.publicMaterial? with
  | some material => make registry ⟨backend.algorithm, true⟩ material
  | none => .error .misused

/-- Headers are accepted exactly if they declare the algorithm of the key. -/
def acceptsHeader (backend : Backend) (header : Header) : Bool := header.uses backend.algorithm

def verify (message signature : Bytes) : Backend → Bool
  | .secret digest key => Hmac.mac digest key message == signature
  | .rsaPrivate digest key => Rsa.verify key.publicKey digest message signature
  | .rsaPublic digest key => Rsa.verify key digest message signature
  | .curvePrivate digest key _ => Curve.verify key.publicKey digest message signature
  | .curvePublic digest key _ => Curve.verify key digest message signature

def sign (message : Bytes) (backend : Backend) : Except Failure Bytes :=
  match backend with
  | .secret digest key => .ok (Hmac.mac digest key message)
  | .rsaPrivate digest key =>
    match Rsa.sign? key digest message with
    | some signature => .ok signature
    | none => .error .keyTooSmall
  | .curvePrivate digest key _ => .ok (Curve.sign key digest message)
  | .rsaPublic _ _ => .error (.lacking backend.name "sign")
  | .curvePublic _ _ _ => .error (.lacking backend.name "sign")

def canSign (backend : Backend) : Bool := !backend.kind.onlyVerifies

end Backend

end SignedToken
