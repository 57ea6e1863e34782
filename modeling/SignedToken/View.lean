import SignedToken.Guard

/-!
# Views behind a guard

A view is what an application does with a request once the guard has granted it.  While a request is
served there may be a current token: the guard sets it before the view runs, and leaves it as it was
when it denies the request.  Whatever the view returns, or whatever goes wrong in it, is what comes
of the request.
-/

namespace SignedToken

inductive Answer (β : Type) where
  | page (status : Nat) (description : Value)
  | viewed (result : β)

/-- What comes of serving a request, and the token that is the current one afterwards. -/
structure Served (β : Type) where
  answer : Traced (Answer β)
  current : Option TokenData

/-- Serves a request: the view runs, on the token of the request, only if the guard grants it. -/
def Guard.serve {β : Type} (registry : Registry) (guard : Guard) (request : Http.Request)
    (view : TokenData → Traced β) (current : Option TokenData) : Served β :=
  let verdict := guard.protect registry request
  { answer := do
      match ← verdict with
      | .granted data => return .viewed (← view data)
      | .denied status description => return .page status description
    current :=
      match verdict.outcome with
      | .ok (.granted data) => some data
      | _ => current }

end SignedToken
