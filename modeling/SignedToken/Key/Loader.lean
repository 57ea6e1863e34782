import SignedToken.Failure.Basic
import SignedToken.Key.Import

/-!
# Loading keys

A key file that cannot be read is at fault in one of three ways, and each of them is an error of its
own kind: its parts do not fit together, it is encrypted and there is no password to be given, or
the kind of its key is not known.  Only private keys are ever encrypted.
-/

namespace SignedToken.Key

/-- Whether an element names a kind of key that is not known, or a curve that is not. -/
def namesUnknown (element : Der.Element) : Bool :=
  match element.parts? with
  | some (name :: parameters) =>
    match name.identifier?, parameters with
    | none, _ => false
    | some identifier, [domain] =>
      if identifier = curveIdentifier then
        (domain.identifier?.map Curve.ofIdentifier?).any Option.isNone
      else !isKnown identifier
    | some identifier, _ => !isKnown identifier
  | _ => false
where
  isKnown (identifier : Bytes) : Bool :=
    identifier == rsaIdentifier || identifier == saltedRsaIdentifier ||
      identifier == curveIdentifier || (fixedKind? identifier).isSome ||
      groupKinds.any (·.identifier == identifier)

/-! ## Private keys -/

/-- Whether the header lines of a block say how the block is encrypted: by a cipher, and from what
it starts. -/
def hasCipher (block : Pem) : Bool :=
  block.header? "Proc-Type" == some "4,ENCRYPTED" &&
    ((block.header? "DEK-Info").getD "").toList.contains ','

/-- Whether a byte string is an encrypted key: how it is encrypted, and the encrypted content. -/
def isSealed (bytes : Bytes) : Bool :=
  match Der.sequence? bytes with
  | some [cipher, content] => cipher.parts?.isSome && content.octets?.isSome
  | _ => false

/-- Whether the kind of a private key in the general form is not known. -/
def isUnknownPrivate (bytes : Bytes) : Bool :=
  match Der.sequence? bytes with
  | some (_ :: kind :: _ :: _) => namesUnknown kind
  | _ => false

def privateBlockFault (block : Pem) : LoadFault :=
  if (block.header? "Proc-Type").isSome then
    if hasCipher block then .encrypted else .malformed
  else if block.label = encryptedLabel then
    if isSealed block.content then .encrypted else .malformed
  else if block.label = privateLabel && isUnknownPrivate block.content then .unsupported
  else .malformed

/-- What is at fault with a file without a private key. -/
def privateFault (bytes : Bytes) : LoadFault :=
  let labelled (blocks : List Pem) := blocks.find? fun block => privateLabels.contains block.label
  (((Pem.decodeAll bytes).bind labelled).map privateBlockFault).getD .malformed

def loadPrivate (bytes : Bytes) : Except LoadFault Private :=
  match privateOfPem? bytes with
  | some key => .ok key
  | none => .error (privateFault bytes)

/-! ## Public keys -/

def isUnknownPublic (bytes : Bytes) : Bool :=
  match Der.sequence? bytes with
  | some [kind, _] => namesUnknown kind
  | _ => false

/-- What is at fault with a file without a public key. -/
def publicFault (bytes : Bytes) : LoadFault :=
  match Pem.decode bytes with
  | some block =>
    if block.label = publicLabel && isUnknownPublic block.content then .unsupported
    else .malformed
  | none => .malformed

def loadPublic (bytes : Bytes) : Except LoadFault Public :=
  match publicOfPem? bytes with
  | some key => .ok key
  | none => .error (publicFault bytes)

end SignedToken.Key
