import SignedToken.Claims.Catalog
import SignedToken.Claims.Writing
import SignedToken.Failure.Basic
import SignedToken.Json.Reader

/-!
# Segments

Two of the three segments of a token hold a document: its compact JSON text, as UTF-8, in unpadded
url base64.  What a document is wanted to be is said by a schema, or by a reader that an application
has of its own, which fails as it likes.
-/

namespace SignedToken.Segment

def ofJson (document : Json) : String :=
  Base64.Url.encode (Utf8.encode (String.ofList document.render))

def encode (value : Value) : Except Failure String :=
  match value.toJson? with
  | some document => .ok (ofJson document)
  | none => .error .unwritable

def readClaims (schema : Schema) (bytes : Bytes) : Except DecodeFailure Value :=
  match Json.readBytes Json.Rules.segment bytes with
  | none => .error (.claims [Issue.whole .notJson])
  | some document =>
    match schema.check document with
    | .ok claims => .ok claims
    | .error issues => .error (.claims issues)

/-- The claims that a segment holds by a schema. -/
def decode (schema : Schema) (text : Text) : Except DecodeFailure Value :=
  match Base64.Url.decode text with
  | .ok bytes => readClaims schema bytes
  | .error failure => .error (.base64 failure)

def decodeBytes (schema : Schema) (spelling : Bytes) : Except DecodeFailure Value :=
  match Base64.Url.decodeBytes spelling with
  | .ok bytes => readClaims schema bytes
  | .error failure => .error (.base64 failure)

end SignedToken.Segment

namespace SignedToken

/-- What claims are to be. -/
inductive ClaimsType where
  | schema (schema : Schema)
  | custom (reader : Bytes → Except Failure Value)

namespace ClaimsType

/-- What a failure of an application's reader amounts to: a value that it does not want makes claims
that are not wanted, and any other failure is left as it is. -/
def claimed (failure : Failure) : Failure :=
  if failure.kind.isCaseOf .valueError then
    .decode (.claims (failure.issues.getD [Issue.whole .unfit]))
  else failure

/-- The claims in the bytes of a segment. -/
def read (bytes : Bytes) : ClaimsType → Except Failure Value
  | .schema wanted => (Segment.readClaims wanted bytes).mapError .decode
  | .custom reader => (reader bytes).mapError claimed

/-- The claims that a segment holds. -/
def decode (type : ClaimsType) (text : Text) : Except Failure Value :=
  match Base64.Url.decode text with
  | .ok bytes => type.read bytes
  | .error failure => .error (.decode (.base64 failure))

theorem decode_schema (wanted : Schema) (text : Text) :
    (ClaimsType.schema wanted).decode text = (Segment.decode wanted text).mapError .decode := by
  rw [decode, Segment.decode]
  cases Base64.Url.decode text <;> rfl

end ClaimsType

end SignedToken
