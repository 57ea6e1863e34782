import SignedToken.Header.Wire
import SignedToken.Keyholder

/-!
# Tokens to be issued

A header and claims make the text that is signed; with the signature in a third segment it is a
token.
-/

namespace SignedToken

structure TokenData where
  header : Header
  claims : Value

namespace TokenData

/-- Claims under the header that a key holder recommends. -/
def forHolder (holder : Keyholder) (claims : Value) : Except Failure TokenData :=
  match Header.forHolder holder with
  | .ok header => .ok ⟨header, claims⟩
  | .error failure => .error failure

def signingInput (data : TokenData) : Except Failure String := do
  let header ← data.header.encode
  let claims ← Segment.encode data.claims
  return header ++ "." ++ claims

/-- The token with the signature of a key holder. -/
def signWith (data : TokenData) (holder : Keyholder) : Except Failure String := do
  let input ← data.signingInput
  let signature ← holder.sign (Utf8.encode input)
  return input ++ "." ++ Base64.Url.encode signature

end TokenData

end SignedToken
