import SignedToken.Backend
import SignedToken.Dispatch

/-!
# Key holders

A key holder signs or verifies.  Around a key there may be wrappers that ask for a key id in the
header: another key id is refused, the right one hands the header on to what is inside, and for a
header without one the wrapper alone decides.  Scripted verifiers give answers that are fixed
beforehand, so that the questions put to them can be followed.
-/

namespace SignedToken

/-- What comes of a question that is put to a scripted verifier. -/
inductive Reply where
  | answer (accepts : Bool)
  | fails (failure : Failure)

structure Script where
  id : Nat
  onHeader : Reply
  onSignature : Reply

inductive Keyholder where
  | key (backend : Backend)
  | withKeyId (keyId : Text) (inner : Keyholder) (acceptMissing : Bool)
  | scripted (script : Script)

def Reply.toTraced : Reply → Traced Bool
  | .answer accepts => pure accepts
  | .fails failure => .fail failure

namespace Keyholder

def wrapperName : String := "WithKeyId"

def scriptName : String := "Recording"

/-- What the outermost part of a key holder is called in the log. -/
def name : Keyholder → String
  | .key backend => backend.name
  | .withKeyId .. => wrapperName
  | .scripted _ => scriptName

def keyId? : Keyholder → Option Text
  | .withKeyId keyId _ _ => some keyId
  | _ => none

def innermost : Keyholder → Keyholder
  | .withKeyId _ inner _ => innermost inner
  | holder => holder

/-- The key ids of the wrappers, the outermost first. -/
def keyIds : Keyholder → List Text
  | .withKeyId keyId inner _ => keyId :: keyIds inner
  | _ => []

def algorithm : Keyholder → Except Failure Algorithm
  | .key backend => .ok backend.algorithm
  | .withKeyId _ inner _ => algorithm inner
  | .scripted _ => .error (.lacking scriptName "algorithm")

/-- Whether the header is one that this key holder is for. -/
def checkHeader (header : Header) : Keyholder → Traced Bool
  | .key backend => pure (backend.acceptsHeader header)
  | .withKeyId keyId inner acceptMissing =>
    match header.keyId with
    | none => pure acceptMissing
    | some given =>
      if given = keyId then checkHeader header inner
      else do
        Traced.remark (.keyIdMismatch keyId)
        return false
  | .scripted script => do
    Traced.tell (.askedHeader script.id)
    script.onHeader.toTraced

/-- Whether a byte string is the signature of a message; wrappers have no say in this. -/
def checkSignature (message signature : Bytes) : Keyholder → Traced Bool
  | .key backend => pure (backend.verify message signature)
  | .withKeyId _ inner _ => checkSignature message signature inner
  | .scripted script => do
    Traced.tell (.askedSignature script.id)
    script.onSignature.toTraced

def sign (message : Bytes) : Keyholder → Except Failure Bytes
  | .key backend => backend.sign message
  | .withKeyId _ inner _ => sign message inner
  | .scripted _ => .error (.lacking scriptName "sign")

/-- Whether a key holder can be asked to sign.  A wrapper can, whatever is inside. -/
def canSign : Keyholder → Bool
  | .key backend => backend.canSign
  | .withKeyId .. => true
  | .scripted _ => false

def hasAlgorithm : Keyholder → Bool
  | .scripted _ => false
  | _ => true

def protocol : VerifierProtocol Traced Keyholder where
  name := name
  checkHeader := checkHeader
  checkSignature := checkSignature
  remark := Traced.remark
  fail := Traced.fail

/-- A key holder as it is shown to people, without its key. -/
def shown : Keyholder → String
  | .key backend => backend.name ++ "()"
  | .withKeyId keyId inner acceptMissing =>
    let parts := ["key_id=" ++ (Value.text keyId).shown, "inner=" ++ shown inner,
      "accept_missing_key_id=" ++ (Value.bool acceptMissing).shown]
    wrapperName ++ "(" ++ Value.listed parts ++ ")"
  | .scripted _ => scriptName ++ "()"

end Keyholder

/-- The header that a key holder recommends: its algorithm, and the key id that it asks for. -/
def Header.forHolder (holder : Keyholder) : Except Failure Header :=
  match holder.algorithm with
  | .ok algorithm => .ok { Header.ofAlgorithm (some algorithm) with keyId := holder.keyId? }
  | .error failure => .error failure

end SignedToken
