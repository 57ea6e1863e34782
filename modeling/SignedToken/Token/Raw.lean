import SignedToken.Dispatch
import SignedToken.Header.Wire
import SignedToken.Keyholder

/-!
# Received tokens

A token is three segments with dots between them: a header, the claims and a signature.  Header and
signature are read when the token is received; the claims stay as they are until somebody asks for
them.  What was signed is the text of the first two segments as it was received.
-/

namespace SignedToken

structure RawToken where
  headerAndPayload : Text
  header : Header
  payload : Text
  signature : Bytes

namespace RawToken

/-- The texts of the three segments, and the text of the first two as it was received. -/
structure Segments where
  signed : Text
  header : Text
  payload : Text
  signature : Text

/-- What stands between two segments. -/
def dot : CodePoint := .char '.'

@[simp]
theorem char_dot : CodePoint.char '.' = dot := rfl

/-- Splits a token.  The signature stands after the last dot and the header before the first dot of
what remains; a further dot is refused. -/
def split : Value → Except DecodeFailure Segments
  | .text token =>
    match Search.breakAtLast? dot token.toList with
    | none => .error .notThreeSegments
    | some (signed, signature) =>
      match Search.breakAt? [dot] signed with
      | none => .error .notThreeSegments
      | some (header, payload) =>
        if payload.contains dot then .error .notThreeSegments
        else .ok ⟨⟨signed⟩, ⟨header⟩, ⟨payload⟩, ⟨signature⟩⟩
  | _ => .error .notText

/-- Reads the signature, after the header. -/
def assemble (segments : Segments) (header : Header) : Except DecodeFailure RawToken :=
  match Base64.Url.decode segments.signature with
  | .ok signature => .ok ⟨segments.signed, header, segments.payload, signature⟩
  | .error failure => .error (.base64 failure)

def read (registry : Registry) (token : Value) : Except DecodeFailure RawToken := do
  let segments ← split token
  let header ← Header.decode registry segments.header
  assemble segments header

/-- Whether the settings have to be consulted to read a token. -/
def consultsSettings (registry : Registry) (token : Value) : Bool :=
  match split token with
  | .ok segments => Header.consultsSettings (Header.decode registry segments.header)
  | .error _ => false

/-- Reads a token, and remarks on one that cannot be read. -/
def decode (registry : Registry) (token : Value) : Traced RawToken := do
  if consultsSettings registry token then Traced.tell .consultedSettings
  match read registry token with
  | .ok raw => return raw
  | .error failure =>
    Traced.remark (.tokenMalformed failure.kind)
    Traced.fail (.decode failure)

def claims (raw : RawToken) (type : ClaimsType) : Except Failure Value := type.decode raw.payload

theorem claims_schema (raw : RawToken) (schema : Schema) :
    raw.claims (.schema schema) = (Segment.decode schema raw.payload).mapError .decode :=
  ClaimsType.decode_schema schema raw.payload

/-! ## Verifying -/

/-- What the signature is a signature of, if the text that was received has bytes. -/
def message? (raw : RawToken) : Option Bytes := raw.headerAndPayload.utf8?

section Protocol

variable {m : Type → Type} [Monad m] {α : Type} (protocol : VerifierProtocol m α)

/-- The message for verifiers; without one there is nothing to ask them about. -/
def messageBy (raw : RawToken) : m Bytes :=
  match raw.headerAndPayload.encoded with
  | .ok message => pure message
  | .error failure => protocol.fail failure

/-- Whether a verifier accepts a token: the header first, then the signature. -/
def verifyBy (raw : RawToken) (verifier : α) : m Bool := do
  if ← protocol.checkHeader raw.header verifier then
    let message ← raw.messageBy protocol
    protocol.checkSignature message raw.signature verifier
  else
    protocol.remark (.headerNotAccepted (protocol.name verifier) raw.header.algorithm)
    return false

/-- Whether one of several verifiers accepts a token.  The message is made before any of them is
drawn from the source. -/
def verifyAnyBy (raw : RawToken) (source : List (m α)) : m Bool := do
  let message ← raw.messageBy protocol
  let accepted ← Dispatch.firstAccepting (protocol.checkHeader raw.header)
    (protocol.checkSignature message raw.signature)
    (fun verifier => protocol.remark (.signatureVerified (protocol.name verifier))) source
  if !accepted then
    protocol.remark (.noVerifierAccepted raw.header.algorithm raw.header.keyId)
  return accepted

end Protocol

def verify (raw : RawToken) (verifier : Keyholder) : Traced Bool :=
  raw.verifyBy Keyholder.protocol verifier

def verifyAny (raw : RawToken) (verifiers : List Keyholder) : Traced Bool :=
  raw.verifyAnyBy Keyholder.protocol (verifiers.map pure)

end RawToken

end SignedToken
