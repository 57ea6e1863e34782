import SignedToken.Keyholder
import SignedToken.Token.Data
import SignedToken.Token.Raw

/-!
# Making key holders and trying them out

Key holders are made from material, from key files or with fresh keys; whoever makes one has to
consult the settings.  A key holder is tried out by signing with it and asking verifiers about the
result.
-/

namespace SignedToken.Making

/-- Notes that the settings are consulted about an algorithm. -/
def consult (registry : Registry) (algorithm : Algorithm) : Traced Unit :=
  if registry.consultsSettings algorithm.family then Traced.tell .consultedSettings else pure ()

def ofMaterial (registry : Registry) (kind : BackendKind) (material : Material) :
    Traced Backend := do
  consult registry kind.algorithm
  Traced.ofExcept (Backend.make registry kind material)

/-- Secrets have no key files. -/
def ofFile (registry : Registry) (kind : BackendKind) (file : Value) : Traced Backend :=
  if kind.algorithm.family.needsKeyPairs then do
    let material ← Traced.ofExcept (Backend.readMaterial kind file)
    ofMaterial registry kind material
  else .fail .misused

def publicHalf (registry : Registry) : Keyholder → Traced Backend
  | .key backend => do
    if backend.canSign && backend.algorithm.family.needsKeyPairs then
      consult registry backend.algorithm
    Traced.ofExcept (backend.publicHalf registry)
  | _ => .fail .misused

/-- The key file of a key holder, which only a key of a key pair has. -/
def toFile : Keyholder → Except Failure Bytes
  | .key backend =>
    match backend.toFile? with
    | some file => .ok file
    | none => .error .misused
  | _ => .error .misused

def signature (holder : Keyholder) (message : Bytes) : Except Failure Bytes :=
  if holder.canSign then holder.sign message else .error .misused

/-! ## Trials -/

/-- The size of a signature, and which verifiers accept it for the message and for another one. -/
structure Trial where
  size : Nat
  accepted : List Bool
  acceptedForOther : List Bool

def tryOut (holder : Keyholder) (message other : Bytes) (verifiers : List Keyholder) :
    Traced Trial := do
  let made ← Traced.ofExcept (signature holder message)
  let accepted ← verifiers.mapM (Keyholder.checkSignature message made)
  let acceptedForOther ← verifiers.mapM (Keyholder.checkSignature other made)
  return ⟨made.length, accepted, acceptedForOther⟩

structure Passage where
  received : RawToken
  accepted : List Bool
  claims : Value

/-- Issues a token, receives it, asks each verifier about it and reads its claims. -/
def passAlong (registry : Registry) (holder : Keyholder) (claims : Value)
    (verifiers : List Keyholder) (type : ClaimsType) : Traced Passage := do
  let data ← Traced.ofExcept (TokenData.forHolder holder claims)
  let token ← Traced.ofExcept (data.signWith holder)
  let received ← RawToken.decode registry (.text token)
  let accepted ← verifiers.mapM received.verify
  let claims ← Traced.ofExcept (received.claims type)
  return ⟨received, accepted, claims⟩

/-! ## Fresh keys -/

/-- A fresh secret is checked like any other; `bytes` gives as many bytes as it is asked for.  Key
pairs are not made from such bytes. -/
def freshSecret (registry : Registry) (algorithm : Algorithm) (bytes : Nat → Bytes) :
    Traced Backend :=
  if algorithm.family.needsKeyPairs then .fail .misused
  else
    ofMaterial registry ⟨algorithm, false⟩ (.value (.bytes (bytes (Backend.secretSize algorithm))))

/-- The size of a key as a caller wants it.  Any number below the least size is refused as such;
besides, a size is an integer of 32 bits. -/
def sizeOf : Value → Except Failure Nat
  | .bool _ => .error (.key .rsa .notGenerated)
  | .int bits =>
    if bits < Rsa.leastBits then .error (.key .rsa .notGenerated)
    else if bits < Power.ofTwo 32 then .ok bits.toNat
    else .error .outOfRange
  | .float bits =>
    if bits.isBelow Rsa.leastBits then .error (.key .rsa .notGenerated)
    else .error .wrongArguments
  | _ => .error .wrongArguments

/-- The size of a fresh key by the named arguments of its making; only the family whose keys come
in several sizes takes one. -/
def sizeWanted : Family → List (String × Value) → Except Failure Nat
  | _, [] => .ok Rsa.defaultBits
  | .rsa, [("key_size", size)] => sizeOf size
  | _, _ => .error .wrongArguments

/-- A fresh key from a seed; it is made before the algorithm has to be enabled.  A public half is
never made by itself. -/
def freshKey (registry : Registry) (kind : BackendKind) (arguments : List (String × Value))
    (seed : Bytes) : Traced Backend :=
  if kind.onlyVerifies then .fail .misused
  else do
    let bits ← Traced.ofExcept (sizeWanted kind.algorithm.family arguments)
    let material ← Traced.ofExcept (Backend.freshMaterial kind.algorithm bits seed)
    ofMaterial registry kind material

/-- What a fresh key pair does: its own signature, its public half, and whether both halves verify
that signature after being written to a key file and read again. -/
structure PairTrial where
  signature : Bytes
  verified : Bool
  bits : Nat
  publicHalf : Keyholder
  publicReloaded : Bool
  privateReloaded : Bool

def reload (registry : Registry) (kind : BackendKind) (backend : Backend) : Traced Backend := do
  let file ← Traced.ofExcept (toFile (.key backend))
  ofFile registry kind (.bytes file)

def tryPair (registry : Registry) (backend : Backend) (message : Bytes) : Traced PairTrial := do
  let signature ← Traced.ofExcept (signature (.key backend) message)
  let publicHalf ← publicHalf registry (.key backend)
  let reloadedPublic ← reload registry ⟨backend.algorithm, true⟩ publicHalf
  let reloadedPrivate ← reload registry ⟨backend.algorithm, false⟩ backend
  return ⟨signature, backend.verify message signature, backend.keyBits?.getD 0, .key publicHalf,
    reloadedPublic.verify message signature, reloadedPrivate.verify message signature⟩

end SignedToken.Making
