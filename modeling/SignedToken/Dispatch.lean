import SignedToken.Header.Basic
import SignedToken.Trace

/-!
# Searching for a verifier

Whatever can be asked about headers and about signatures serves as a verifier.  Verifiers are tried
in order.  Each one is asked about the header first, and about the signature only if it accepts the
header; the first one that accepts both ends the search, and so does a verifier that fails.  Nothing
is asked of the verifiers after it.
-/

namespace SignedToken

/-- The questions that can be put to verifiers of some kind, and what else is done on the way: the
log is written, and there may be a failure that is no verifier's. -/
structure VerifierProtocol (m : Type → Type) (α : Type) where
  name : α → String
  checkHeader : Header → α → m Bool
  checkSignature : Bytes → Bytes → α → m Bool
  remark : Remark → m Unit
  fail : {β : Type} → Failure → m β

namespace Dispatch

/-- Whether some candidate passes both checks; the first one that does is reported.  A candidate is
drawn from its source when it is its turn. -/
def firstAccepting {m : Type → Type} [Monad m] {α : Type} (checkHeader checkSignature : α → m Bool)
    (report : α → m Unit) : (source : List (m α)) → m Bool
  | [] => pure false
  | draw :: rest => do
    let candidate ← draw
    if ← checkHeader candidate then
      if ← checkSignature candidate then
        report candidate
        return true
      else firstAccepting checkHeader checkSignature report rest
    else firstAccepting checkHeader checkSignature report rest

end Dispatch

end SignedToken
