import SignedToken.Extractor
import SignedToken.Token.Data
import SignedToken.Token.Raw

/-!
# Guarding requests

A guard lets a request through if it carries a token that one of the verifiers accepts and whose
claims are what is wanted.  The stages are passed in order: find the token, read it, verify it, read
the claims.  The first stage that fails decides the answer, and whatever goes wrong in a way that is
not foreseen denies the request too.  A guard is made once, and may be given another configuration
later; the two differ in what they make of an extractor that stands for falsehood.
-/

namespace SignedToken

structure Guard where
  verifiers : List Keyholder
  claimsType : ClaimsType
  extractor : Extractor

/-- What may be given of a guard's configuration. -/
structure GuardOptions where
  verifiers : Option (List Keyholder)
  claimsType : Option ClaimsType
  extractor : Option Extractor

inductive Verdict where
  | granted (data : TokenData)
  | denied (status : Nat) (description : Value)

namespace Guard

def defaults : Guard where
  verifiers := []
  claimsType := .schema Schema.claims
  extractor := .bearer Extractor.defaultField Extractor.defaultScheme

/-- A guard with what is given, and the defaults for the rest.  An extractor that stands for
falsehood counts as none. -/
def new (options : GuardOptions) : Guard where
  verifiers := options.verifiers.getD defaults.verifiers
  claimsType := options.claimsType.getD defaults.claimsType
  extractor := (options.extractor.filter Extractor.truth).getD defaults.extractor

/-- Replaces what is given and keeps the rest. -/
def configure (guard : Guard) (options : GuardOptions) : Guard where
  verifiers := options.verifiers.getD guard.verifiers
  claimsType := options.claimsType.getD guard.claimsType
  extractor := options.extractor.getD guard.extractor

def malformedDescription : String := "Malformed token"

def signatureDescription : String := "Invalid signature"

def claimsDescription : String := "Invalid claims"

def unforeseenDescription : String := "Authentication failed"

def malformed (failure : DecodeFailure) : Refusal :=
  { Refusal.invalid ("malformed token: " ++ failure.message) malformedDescription with
    issues := failure.issues }

def unverified : Refusal := .invalid "no verifier accepted the token" signatureDescription

def unwantedClaims (failure : DecodeFailure) : Refusal :=
  { Refusal.invalid ("claims rejected (" ++ failure.kind.name ++ ")") claimsDescription with
    issues := failure.issues }

/-- A failure to read something, as the reason to refuse the request. -/
def asRefusal (refusal : DecodeFailure → Refusal) : Failure → Failure
  | .decode failure => .refused (refusal failure)
  | failure => failure

/-- The header and the claims of a request's token, once all stages are passed. -/
def authenticate (registry : Registry) (guard : Guard) (request : Http.Request) :
    Traced TokenData := do
  let token ← guard.extractor.extract request
  let raw ← (RawToken.decode registry token).mapFailure (asRefusal malformed)
  if guard.verifiers.isEmpty then Traced.remark .noVerifiers
  if ← raw.verifyAny guard.verifiers then
    let claims ← (Traced.ofExcept (raw.claims guard.claimsType)).mapFailure
      (asRefusal unwantedClaims)
    return ⟨raw.header, claims⟩
  else Traced.fail (.refused unverified)

/-- The statuses of error pages. -/
def errorStatuses : List Nat :=
  [400, 401, 403, 404, 405, 406, 408, 409, 410, 411, 412, 413, 414, 415, 416, 417, 418, 421, 422,
    423, 424, 428, 429, 431, 451, 500, 501, 502, 503, 504, 505]

/-- Ends a request with an error page. -/
def deny (status : Nat) (description : Value) : Traced Verdict :=
  if errorStatuses.contains status then pure (.denied status description)
  else .fail .unknownStatus

def protect (registry : Registry) (guard : Guard) (request : Http.Request) : Traced Verdict := do
  match ← (guard.authenticate registry request).attempt with
  | .ok data => return .granted data
  | .error (.refused refusal) =>
    Traced.remark (.requestRefused request.path refusal.message)
    deny refusal.status refusal.description
  | .error failure =>
    Traced.remark (.authenticationFailed request.path failure.kind)
    deny Refusal.unauthorized (.text unforeseenDescription)

end Guard

end SignedToken
