import SignedToken.Failure.Basic

/-!
# Traces

Some operations leave a trace besides their outcome: remarks for the log, consultations of the
settings, and the questions that are put to scripted verifiers.  A `Traced` computation is its
outcome with the events so far in order; what follows a failure never happens.
-/

namespace SignedToken

inductive Remark where
  | tokenMalformed (kind : ErrorKind)
  | headerNotAccepted (verifier : String) (declared : Declared)
  | signatureVerified (verifier : String)
  | noVerifierAccepted (declared : Declared) (keyId : Option Text)
  | keyIdMismatch (expected : Text)
  | unexpectedScheme (field : String)
  | noVerifiers
  | requestRefused (path : String) (message : Text)
  | authenticationFailed (path : String) (kind : ErrorKind)
  deriving DecidableEq, Repr

namespace Remark

/-- Level and place of a remark. -/
def source : Remark → String
  | .tokenMalformed _ => "DEBUG token"
  | .headerNotAccepted .. => "DEBUG token"
  | .signatureVerified _ => "DEBUG token"
  | .noVerifierAccepted .. => "DEBUG token"
  | .keyIdMismatch _ => "DEBUG key_id"
  | .unexpectedScheme _ => "DEBUG extractors"
  | .noVerifiers => "WARNING flask_extension"
  | .requestRefused .. => "WARNING flask_extension"
  | .authenticationFailed .. => "WARNING flask_extension"

def text : Remark → Text
  | .tokenMalformed kind => "Rejected malformed token: " ++ kind.name
  | .headerNotAccepted verifier declared =>
    verifier ++ " does not accept alg=" ++ declared.shown
  | .signatureVerified verifier => "Signature verified by " ++ verifier
  | .noVerifierAccepted declared keyId =>
    "No verifier accepted token with alg=" ++ declared.shown ++ " kid=" ++ keyId.getD "None"
  | .keyIdMismatch expected => "Key id mismatch (expected " ++ expected ++ ")"
  | .unexpectedScheme field => "Unexpected authorization scheme in " ++ field ++ " header"
  | .noVerifiers => "No verifiers configured; rejecting every token"
  | .requestRefused path message => "Rejected request to " ++ path ++ ": " ++ message
  | .authenticationFailed path kind => "Authentication failed for " ++ path ++ ": " ++ kind.name

def line (remark : Remark) : Text := remark.source ++ ": " ++ remark.text

end Remark

inductive Event where
  | remarked (remark : Remark)
  | consultedSettings
  | askedHeader (script : Nat)
  | askedSignature (script : Nat)
  deriving DecidableEq, Repr

structure Traced (α : Type) where
  outcome : Except Failure α
  events : List Event

namespace Traced

protected def pure {α : Type} (result : α) : Traced α := ⟨.ok result, []⟩

protected def bind {α β : Type} (first : Traced α) (next : α → Traced β) : Traced β :=
  match first.outcome with
  | .ok result => ⟨(next result).outcome, first.events ++ (next result).events⟩
  | .error failure => ⟨.error failure, first.events⟩

instance : Monad Traced where
  pure := Traced.pure
  bind := Traced.bind

def ofExcept {α : Type} (outcome : Except Failure α) : Traced α := ⟨outcome, []⟩

def fail {α : Type} (failure : Failure) : Traced α := ⟨.error failure, []⟩

def tell (event : Event) : Traced Unit := ⟨.ok (), [event]⟩

def remark (remark : Remark) : Traced Unit := tell (.remarked remark)

/-- The outcome of a computation as its result; the events stay. -/
def attempt {α : Type} (computation : Traced α) : Traced (Except Failure α) :=
  ⟨.ok computation.outcome, computation.events⟩

/-- The same computation, with a failure told as another one. -/
def mapFailure {α : Type} (change : Failure → Failure) (computation : Traced α) : Traced α :=
  ⟨computation.outcome.mapError change, computation.events⟩

@[simp]
theorem outcome_pure {α : Type} (result : α) : (pure result : Traced α).outcome = .ok result := rfl

@[simp]
theorem outcome_bind {α β : Type} (first : Traced α) (next : α → Traced β) :
    (first >>= next).outcome = first.outcome >>= fun result => (next result).outcome := by
  show (Traced.bind first next).outcome = _
  unfold Traced.bind
  cases first.outcome <;> rfl

theorem bind_of_ok {α β : Type} {first : Traced α} {next : α → Traced β} {result : α}
    (h : first.outcome = .ok result) :
    (first >>= next) = ⟨(next result).outcome, first.events ++ (next result).events⟩ := by
  show Traced.bind first next = _
  rw [Traced.bind, h]

theorem bind_of_error {α β : Type} {first : Traced α} {next : α → Traced β} {failure : Failure}
    (h : first.outcome = .error failure) : (first >>= next) = ⟨.error failure, first.events⟩ := by
  show Traced.bind first next = _
  rw [Traced.bind, h]

def remarks (events : List Event) : List Remark :=
  events.filterMap fun event =>
    match event with
    | .remarked remark => some remark
    | _ => none

end Traced

end SignedToken
