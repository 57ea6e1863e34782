import SignedToken.Key.Basic
import SignedToken.Key.Domain
import SignedToken.Key.Other
import SignedToken.Key.Padding
import SignedToken.Pem

/-!
# Reading keys

Private keys come in a general form, which names the kind of the key, or in a form of their kind;
public keys likewise.  The numbers of a key must fit together.
-/

namespace SignedToken.Key

/-- Whether a kind is that of key pairs from two primes, with parameters that fit. -/
def isRsa (identifier : Bytes) (parameters : List Der.Element) : Bool :=
  match parameters with
  | [] => identifier == rsaIdentifier || identifier == saltedRsaIdentifier
  | [parameter] =>
    identifier == rsaIdentifier && parameter.isNull ||
      identifier == saltedRsaIdentifier && Padding.isParameters parameter
  | _ => false

/-! ## Private keys -/

/-- The nine numbers of a private key from two primes, the first of which is the version. -/
def rsaPrivate? (bytes : Bytes) : Option Rsa.PrivateKey := do
  match ← Der.naturals? bytes with
  | [0, modulus, exponent, secret, first, second, firstSecret, secondSecret, coefficient] =>
    Rsa.PrivateKey.make?
      ⟨modulus, exponent, secret, first, second, firstSecret, secondSecret, coefficient⟩
  | _ => none

/-- Domain and point that may follow the scalar of a private key on a curve. -/
def curveExtras? : List Der.Element → Option (Option Der.Element × Option Der.Element)
  | [] => some (none, none)
  | [extra] =>
    match extra.context? 0 with
    | some domain => some (some domain, none)
    | none => (extra.context? 1).map fun point => (none, some point)
  | [first, second] => do
    some (some (← first.context? 0), some (← second.context? 1))
  | _ => none

/-- The scalar of a private key, which is written with as many bytes as the order of the curve. -/
def scalar? (curve : Curve) (content : Bytes) : Option Nat :=
  if content.length = Bytes.bytesFor (Bytes.bitLength curve.params.order) then
    some (Bytes.toNat content)
  else none

/-- A private key on a curve: version, scalar, and possibly the domain and the public point. -/
def curvePrivate? (around : Option Der.Element) (bytes : Bytes) : Option Curve.PrivateKey := do
  match ← Der.sequence? bytes with
  | version :: content :: extras =>
    let (inside, pointBits) ← curveExtras? extras
    let curve ← agreedCurve? around inside
    let scalar ← content.octets? >>= scalar? curve
    if version.natural? ≠ some 1 then none
    else
      let point ←
        match pointBits with
        | some element => element.bits? >>= Curve.decodePoint? curve
        | none => Curve.publicPoint? curve.params scalar
      Curve.PrivateKey.make? curve scalar point
  | _ => none

def privateOfKind? (identifier : Bytes) (parameters : List Der.Element) (content : Bytes) :
    Option Private :=
  if isRsa identifier parameters then (rsaPrivate? content).map .rsa
  else if identifier = curveIdentifier then
    match parameters with
    | [domain] => (curvePrivate? (some domain) content).map .curve
    | _ => none
  else (otherPrivate? identifier parameters content).map .other

/-- Whether an element is an attribute: an identifier and a set of values. -/
def isAttribute (element : Der.Element) : Bool :=
  match element.parts? with
  | some [name, values] => name.identifier?.isSome && (values.setOf? Der.setTag).isSome
  | _ => false

def areAttributes : List Der.Element → Bool
  | [] => true
  | [attributes] => ((attributes.setOf? (Der.contextTag 0)).map (·.all isAttribute)).getD false
  | _ => false

/-- Calls a function with the identifier and the parameters in an element that names a kind. -/
def withKind? {α : Type} (element : Der.Element)
    (read : Bytes → List Der.Element → Option α) : Option α := do
  match ← element.parts? with
  | identifier :: parameters => read (← identifier.identifier?) parameters
  | [] => none

/-- A private key in the general form: version, kind, content, and possibly attributes. -/
def generalPrivate? (bytes : Bytes) : Option Private := do
  match ← Der.sequence? bytes with
  | version :: kind :: content :: attributes =>
    if version.natural? = some 0 ∧ areAttributes attributes then
      let content ← content.octets?
      withKind? kind fun identifier parameters => privateOfKind? identifier parameters content
    else none
  | _ => none

/-! ## Public keys -/

/-- A public key from two primes; its exponent is below the modulus. -/
def rsaPublic? (bytes : Bytes) : Option Rsa.PublicKey := do
  match ← Der.naturals? bytes with
  | [modulus, exponent] =>
    if exponent < modulus then Rsa.PublicKey.make? modulus exponent else none
  | _ => none

def publicOfKind? (identifier : Bytes) (parameters : List Der.Element) (content : Bytes) :
    Option Public :=
  if isRsa identifier parameters then (rsaPublic? content).map .rsa
  else if identifier = curveIdentifier then
    match parameters with
    | [domain] => do
      let curve ← curveOfDomain? domain
      let point ← Curve.decodePoint? curve content
      (Curve.PublicKey.make? curve point).map .curve
    | _ => none
  else (otherPublic? identifier parameters content).map .other

def generalPublic? (bytes : Bytes) : Option Public := do
  match ← Der.sequence? bytes with
  | [kind, content] =>
    let content ← content.bits?
    withKind? kind fun identifier parameters => publicOfKind? identifier parameters content
  | _ => none

/-- The public key that a byte string encodes in the general form, or else by its two numbers. -/
def publicOfDer? (bytes : Bytes) : Option Public :=
  (generalPublic? bytes).or ((rsaPublic? bytes).map .rsa)

/-! ## Key files -/

/-- The private key in a block of a key file.  Blocks with a header about encryption are refused,
and so are encrypted keys. -/
def privateOfBlock? (block : Pem) : Option Private :=
  if (block.header? "Proc-Type").isSome then none
  else if block.label = privateLabel then generalPrivate? block.content
  else if block.label = rsaPrivateLabel then (rsaPrivate? block.content).map .rsa
  else if block.label = curvePrivateLabel then (curvePrivate? none block.content).map .curve
  else if block.label = dsaPrivateLabel && isDsaPrivate block.content then some (.other "DSA")
  else none

/-- The private key in the first block of a key file that is labelled as one.  All blocks must be
well formed. -/
def privateOfPem? (bytes : Bytes) : Option Private := do
  let blocks ← Pem.decodeAll bytes
  privateOfBlock? (← blocks.find? fun block => privateLabels.contains block.label)

/-- The public key in the first block of a key file.  A block for a key from two primes may hold
the general form of such a key. -/
def publicOfPem? (bytes : Bytes) : Option Public := do
  let block ← Pem.decode bytes
  if block.label = publicLabel then generalPublic? block.content
  else if block.label = rsaPublicLabel then
    match publicOfDer? block.content with
    | some (.rsa key) => some (.rsa key)
    | _ => none
  else none

end SignedToken.Key
