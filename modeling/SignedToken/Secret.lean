import SignedToken.Claims.Value
import SignedToken.Failure.Basic
import SignedToken.Key.Import
import SignedToken.KeyDocument

/-!
# Secrets

A shared secret is a byte string that is not empty and not a key of another kind.  If a public key
were taken for a secret, whoever knows the public key could sign; so anything that looks like a key
file, a public key, a login key or a key document is refused.
-/

namespace SignedToken.Secret

/-! ## Key files -/

/-- What the blocks of key files and related files are called. -/
def blockLabels : List Bytes :=
  ["CERTIFICATE", "TRUSTED CERTIFICATE", "PRIVATE KEY", "PUBLIC KEY", "ENCRYPTED PRIVATE KEY",
    "OPENSSH PRIVATE KEY", "DSA PRIVATE KEY", "RSA PRIVATE KEY", "RSA PUBLIC KEY",
    "EC PRIVATE KEY", "DH PARAMETERS", "NEW CERTIFICATE REQUEST", "CERTIFICATE REQUEST",
    "SSH2 PUBLIC KEY", "SSH2 ENCRYPTED PRIVATE KEY", "X509 CRL"].map Bytes.ofAscii

def dashes : Bytes := Bytes.ofAscii "----"

/-- The character between the dashes and the words of a marker. -/
def isDashOrBlank (byte : Byte) : Bool := byte == 45 || byte == 32

/-- What follows a text at the start of a byte string. -/
def after? (text bytes : Bytes) : Option Bytes :=
  if text.isPrefixOf bytes then some (bytes.drop text.length) else none

/-- What follows the end of a marker: a dash or blank, and four dashes. -/
def afterClosing? : Bytes → Option Bytes
  | [] => none
  | byte :: rest => if isDashOrBlank byte then after? dashes rest else none

/-- What follows the start of a marker: four dashes, and a dash or blank. -/
def afterOpening? (bytes : Bytes) : Option Bytes := do
  match ← after? dashes bytes with
  | [] => none
  | byte :: rest => if isDashOrBlank byte then some rest else none

/-- The label of a marker with the given word at the start of a byte string, and its length. -/
def markerAt? (word bytes : Bytes) : Option (Bytes × Nat) := do
  let rest ← afterOpening? bytes >>= after? word
  blockLabels.findSome? fun label => do
    let rest ← after? label rest >>= afterClosing?
    some (label, bytes.length - rest.length)

def beginWord : Bytes := Bytes.ofAscii "BEGIN "

def endWord : Bytes := Bytes.ofAscii "END "

/-- Whether a block ends somewhere in a byte string that starts at `position`.  `begun` tells where
the first markers seen so far end, the latest first; between the two markers of a block there is
at least one character. -/
def blockEnds : (position : Nat) → (begun : List (Bytes × Nat)) → Bytes → Bool
  | _, _, [] => false
  | position, begun, byte :: rest =>
    let begun :=
      match markerAt? beginWord (byte :: rest) with
      | some (label, length) => (label, position + length) :: begun
      | none => begun
    let ends :=
      match markerAt? endWord (byte :: rest) with
      | some (label, _) => ((begun.find? (·.1 == label)).map (·.2)).any (decide <| · < position)
      | none => false
    ends || blockEnds (position + 1) begun rest

/-! ## Other keys -/

def loginKeyStarts : List Bytes :=
  ["ssh-ed25519", "ssh-rsa", "ssh-dss", "ecdsa-sha2-nistp256", "ecdsa-sha2-nistp384",
    "ecdsa-sha2-nistp521"].map Bytes.ofAscii

/-- Whether a byte string is, or holds, a key that belongs to a key pair. -/
def looksAsymmetric (key : Bytes) : Bool :=
  blockEnds 0 [] key || loginKeyStarts.any (·.isPrefixOf key) || (Key.publicOfDer? key).isSome

def fault? (key : Bytes) : Option KeyFailure :=
  if key.isEmpty then some .emptySecret
  else if looksAsymmetric key then some .asymmetricSecret
  else if KeyDocument.looksLikeKey key then some .jwkSecret
  else none

/-- The bytes of a value that may be a secret: text stands for its UTF-8. -/
def bytesOf : Value → Except Failure Bytes
  | .text content => content.encoded
  | .bytes content => .ok content
  | .buffer content => .ok content
  | value => .error (.key .hmac (.secretKind value.kindName))

def ofValue (value : Value) : Except Failure Bytes :=
  match bytesOf value with
  | .error failure => .error failure
  | .ok key =>
    match fault? key with
    | some failure => .error (.key .hmac failure)
    | none => .ok key

end SignedToken.Secret
