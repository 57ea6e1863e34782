import SignedToken.Der.Reader

/-!
# Other kinds of key

Kinds of key that are not used for signatures here.  A key of such a kind is read only to tell what
it is called: some are a byte string of fixed size, some are a number with the parameters of a
group.
-/

namespace SignedToken.Key

/-! ## Keys of fixed size -/

structure FixedKind where
  identifier : Bytes
  name : String
  publicSize : Nat
  /-- The tag of the element that a private key is. -/
  privateTag : Byte
  privateSize : Nat
  /-- Whether the public key is a list of residues. -/
  residues : Bool

/-- The identifier of a kind from the register of national standards. -/
def registered (group number : Byte) : Bytes :=
  [0x60, 0x86, 0x48, 0x01, 0x65, 0x03, 0x04, group, number]

def seedTag : Byte := 0x80

def fixedKinds : List FixedKind :=
  [⟨[0x2b, 0x65, 0x6e], "X25519", 32, Der.octetsTag, 32, false⟩,
    ⟨[0x2b, 0x65, 0x6f], "X448", 56, Der.octetsTag, 56, false⟩,
    ⟨[0x2b, 0x65, 0x70], "Ed25519", 32, Der.octetsTag, 32, false⟩,
    ⟨[0x2b, 0x65, 0x71], "Ed448", 57, Der.octetsTag, 57, false⟩,
    ⟨registered 3 17, "MLDSA44", 1312, seedTag, 32, false⟩,
    ⟨registered 3 18, "MLDSA65", 1952, seedTag, 32, false⟩,
    ⟨registered 3 19, "MLDSA87", 2592, seedTag, 32, false⟩,
    ⟨registered 4 2, "MLKEM768", 1184, seedTag, 64, true⟩,
    ⟨registered 4 3, "MLKEM1024", 1568, seedTag, 64, true⟩]

def fixedKind? (identifier : Bytes) : Option FixedKind :=
  fixedKinds.find? (·.identifier == identifier)

def residueSeed : Nat := 32

def residueBound : Nat := 3329

/-- Whether all residues are below the bound; each two of them take three bytes. -/
def residuesSound : Bytes → Bool
  | first :: second :: third :: rest =>
    first.toNat + second.toNat % 16 * 256 < residueBound &&
      second.toNat / 16 + third.toNat * 16 < residueBound && residuesSound rest
  | _ => true

def FixedKind.acceptsPublic (kind : FixedKind) (content : Bytes) : Bool :=
  content.length == kind.publicSize &&
    (!kind.residues || residuesSound (content.take (kind.publicSize - residueSeed)))

def FixedKind.acceptsPrivate (kind : FixedKind) (content : Bytes) : Bool :=
  match Der.element? content >>= Der.Element.contentOf? kind.privateTag with
  | some key => key.length == kind.privateSize
  | none => false

/-! ## Keys in a group -/

def dsaIdentifier : Bytes := [0x2a, 0x86, 0x48, 0xce, 0x38, 0x04, 0x01]

/-- Key agreement in a group whose order is told, or not told. -/
def dhIdentifier : Bytes := [0x2a, 0x86, 0x48, 0xce, 0x3e, 0x02, 0x01]

def plainDhIdentifier : Bytes := [0x2a, 0x86, 0x48, 0x86, 0xf7, 0x0d, 0x01, 0x03, 0x01]

def dsaModulus? (parameters : Der.Element) : Option Nat := do
  match ← (← parameters.parts?).mapM Der.Element.natural? with
  | [modulus, _, _] => some modulus
  | _ => none

/-- Whether elements are a seed and a counter. -/
def isValidation (element : Der.Element) : Bool :=
  match element.parts? with
  | some [seed, counter] => seed.bits?.isSome && counter.natural?.isSome
  | _ => false

/-- Whether elements are what may follow the three parameters of a group whose order is told. -/
def isGroupRest : List Der.Element → Bool
  | [] => true
  | [cofactorOrValidation] =>
    cofactorOrValidation.natural?.isSome || isValidation cofactorOrValidation
  | [cofactor, validation] => cofactor.natural?.isSome && isValidation validation
  | _ => false

/-- The modulus of a group for key agreement whose order is told. -/
def dhModulus? (parameters : Der.Element) : Option Nat := do
  match ← parameters.parts? with
  | modulus :: generator :: order :: rest =>
    if generator.natural?.isSome && order.natural?.isSome && isGroupRest rest then
      modulus.natural?
    else none
  | _ => none

/-- The modulus of a group for key agreement whose order is not told; the length of private numbers
may be told. -/
def plainDhModulus? (parameters : Der.Element) : Option Nat := do
  match ← (← parameters.parts?).mapM Der.Element.natural? with
  | [modulus, _] => some modulus
  | [modulus, _, length] => if Bytes.bitLength length ≤ 32 then some modulus else none
  | _ => none

structure GroupKind where
  identifier : Bytes
  name : String
  /-- The modulus of the group with some parameters. -/
  modulus? : Der.Element → Option Nat
  /-- Whether the public number of a private key can be had with a modulus. -/
  hasPublic : Nat → Bool

/-- Moduli for key agreement are odd and have from 512 to 10000 bits. -/
def isAgreementModulus (modulus : Nat) : Bool :=
  modulus % 2 == 1 && 512 ≤ Bytes.bitLength modulus && Bytes.bitLength modulus ≤ 10000

def groupKinds : List GroupKind :=
  [⟨dsaIdentifier, "DSA", dsaModulus?, (0 < ·)⟩,
    ⟨dhIdentifier, "DH", dhModulus?, isAgreementModulus⟩,
    ⟨plainDhIdentifier, "DH", plainDhModulus?, isAgreementModulus⟩]

def group? (identifier : Bytes) (parameters : List Der.Element) : Option (GroupKind × Nat) := do
  let kind ← groupKinds.find? (·.identifier == identifier)
  match parameters with
  | [parameter] => (kind.modulus? parameter).map (kind, ·)
  | _ => none

/-! ## Kinds -/

/-- What a private key of another kind is called. -/
def otherPrivate? (identifier : Bytes) (parameters : List Der.Element) (content : Bytes) :
    Option String :=
  match fixedKind? identifier with
  | some kind =>
    if parameters.isEmpty && kind.acceptsPrivate content then some kind.name else none
  | none => do
    let (kind, modulus) ← group? identifier parameters
    let _ ← Der.element? content >>= Der.Element.natural?
    if kind.hasPublic modulus then some kind.name else none

/-- What a public key of another kind is called. -/
def otherPublic? (identifier : Bytes) (parameters : List Der.Element) (content : Bytes) :
    Option String :=
  match fixedKind? identifier with
  | some kind =>
    if parameters.isEmpty && kind.acceptsPublic content then some kind.name else none
  | none => do
    let (kind, _) ← group? identifier parameters
    let _ ← Der.element? content >>= Der.Element.natural?
    some kind.name

/-- Whether a byte string is a private key in the form of its kind: the version, the three
parameters of the group, and the two numbers of the key. -/
def isDsaPrivate (bytes : Bytes) : Bool :=
  match Der.naturals? bytes with
  | some [0, _, _, _, _, _] => true
  | _ => false

end SignedToken.Key
