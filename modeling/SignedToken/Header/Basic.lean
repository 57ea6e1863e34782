import SignedToken.Algorithm
import SignedToken.Text.Basic

/-!
# Token headers

A header declares the algorithm of a token, and may name the key, the kind of token and the members
that a recipient has to understand.
-/

namespace SignedToken

structure Header where
  algorithm : Declared
  keyId : Option Text
  mediaType : Option Text
  critical : Option (List Text)
  deriving DecidableEq, Repr

namespace Header

def ofAlgorithm (algorithm : Declared) : Header := ⟨algorithm, none, none, none⟩

/-- Whether the header declares this signature algorithm; an unsigned token declares none. -/
def uses (header : Header) (algorithm : Algorithm) : Bool := header.algorithm == some algorithm

/-- Whether the header lists members to be understood, whichever these are. -/
def hasCritical (header : Header) : Bool := header.critical.isSome

end Header

end SignedToken
