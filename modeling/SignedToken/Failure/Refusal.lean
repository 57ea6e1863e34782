import SignedToken.Claims.Issue
import SignedToken.Claims.Shown
import SignedToken.Failure.Kind

/-!
# Refusals

A request is refused with a message for the log of the server, and with a short description and a
status for the client.  The description never holds the detail of the message.  An application that
refuses a request itself may give any value for either.
-/

namespace SignedToken

inductive RefusalKind where
  | authError
  | missingToken
  | invalidToken
  deriving DecidableEq, Repr

namespace RefusalKind

def kind : RefusalKind → ErrorKind
  | .authError => .authError
  | .missingToken => .missingToken
  | .invalidToken => .invalidToken

/-- What a client is told if nothing else is said. -/
def description : RefusalKind → String
  | .authError => "Authentication failed"
  | .missingToken => "Missing token"
  | .invalidToken => "Invalid token"

end RefusalKind

structure Refusal where
  kind : RefusalKind
  message : Text
  description : Value
  status : Nat
  /-- What a check of a document found, if that is why the request is refused. -/
  issues : Option (List Issue)

namespace Refusal

/-- The status of a request that is not authorized. -/
def unauthorized : Nat := 401

/-- What stands before the first colon that a blank follows. -/
def firstClause : List CodePoint → List CodePoint
  | .char ':' :: .char ' ' :: _ => []
  | [] => []
  | point :: rest => point :: firstClause rest

def opensWith (start : String) (message : Text) : Bool :=
  (start : Text).toList.isPrefixOf message.toList

/-- Texts about a key that could not be had end before their reason. -/
def withoutReason (message : Text) : Text :=
  if opensWith "could not load " message || opensWith "could not generate " message then
    ⟨firstClause message.toList⟩
  else message

/-- A refusal; without a message the description stands for it. -/
def make (kind : RefusalKind) (message description : Option Value) (status : Nat) : Refusal :=
  let shown := description.getD (.text kind.description)
  ⟨kind, withoutReason (message.getD shown).worded, shown, status, none⟩

def missing (message : Text) : Refusal :=
  make .missingToken (some (.text message)) none unauthorized

def invalid (message : Text) (description : String) : Refusal :=
  make .invalidToken (some (.text message)) (some (.text description)) unauthorized

end Refusal

end SignedToken
