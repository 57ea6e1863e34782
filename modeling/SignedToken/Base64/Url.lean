import SignedToken.Base64.Basic
import SignedToken.Text.Basic

/-!
# Unpadded url base64

Segments of a token are url base64 without padding.  Reading is strict: only the sixty-four symbols,
no impossible length, and no bit set past the end of the data, so every byte string has exactly one
spelling.
-/

namespace SignedToken.Base64.Url

inductive Failure where
  | nonAscii
  | unexpectedCharacter
  | invalidLength
  | nonCanonical
  deriving DecidableEq, Repr

def Failure.message : Failure → String
  | .nonAscii => "invalid base64: non-ASCII input"
  | .unexpectedCharacter => "invalid base64: unexpected character or padding"
  | .invalidLength => "invalid base64: invalid length"
  | .nonCanonical => "invalid base64: non-canonical encoding"

def encode (bytes : Bytes) : String :=
  String.ofList ((toSextets bytes).map Alphabet.url.symbol)

def digit? (point : CodePoint) : Option Sextet := point.char?.bind Alphabet.url.digit?

/-- Reads a text.  A text that is not what its own bytes are written as is refused. -/
def decode (text : Text) : Except Failure Bytes :=
  match text.toList.mapM digit? with
  | none => .error .unexpectedCharacter
  | some digits =>
    if digits.length % 4 = 1 then .error .invalidLength
    else if encode (ofSextets digits) = text then .ok (ofSextets digits)
    else .error .nonCanonical

def decodeBytes (bytes : Bytes) : Except Failure Bytes :=
  match Ascii.decode bytes with
  | none => .error .nonAscii
  | some text => decode text

end SignedToken.Base64.Url
