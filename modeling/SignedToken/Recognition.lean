import SignedToken.Failure.Basic
import SignedToken.Registry

/-!
# Recognizing algorithms

A name is recognized if it is exactly the name of an enabled algorithm.  Otherwise the failure shows
the name and says which names would have been.
-/

namespace SignedToken.Registry

/-- The failure to recognize a name, which shows it if it can be shown. -/
def unrecognized (registry : Registry) (name : Value) : Failure :=
  if name.isShowable then .unrecognized name registry.enabledNames else .tooDeep

def recognize (registry : Registry) (name : Value) : Except Failure Algorithm :=
  let found : Option Algorithm :=
    match name with
    | .text content => registry.find? content
    | _ => none
  match found with
  | some algorithm => .ok algorithm
  | none => .error (registry.unrecognized name)

/-- What a value that names an algorithm, or none, declares. -/
def declare (registry : Registry) (name : Value) : Except Failure Declared :=
  let found : Option Declared :=
    match name with
    | .text content => registry.declared? content
    | _ => none
  match found with
  | some declared => .ok declared
  | none => .error (registry.unrecognized name)

def require (registry : Registry) (algorithm : Algorithm) : Except Failure Unit :=
  if registry.enabled algorithm then .ok () else .error (.disabled algorithm)

end SignedToken.Registry
