import SignedToken.Failure.Basic

/-!
# Error reports

What a caller learns of an error: its kind, its message and what else errors of the kind carry.
Reports come from failures, or are made directly as an application makes errors of its own.
-/

namespace SignedToken

structure Report where
  kind : ErrorKind
  message : Option Text
  issues : Option (List Issue)
  /-- The name that was not recognized, and the names that would have been. -/
  unrecognized : Option (Value × List Text)
  /-- What the client of a refused request is told, and the status. -/
  answer : Option (Value × Nat)

namespace Report

def ofFailure (failure : Failure) : Report where
  kind := failure.kind
  message := failure.message
  issues := failure.issues
  unrecognized :=
    match failure with
    | .unrecognized name accepted => some (name, accepted.map .ofString)
    | _ => none
  answer :=
    match failure with
    | .refused refusal => some (refusal.description, refusal.status)
    | _ => none

def plain (kind : ErrorKind) (message : Option Text) : Report := ⟨kind, message, none, none, none⟩

/-- The message that an error's arguments make: none is empty, one is itself, more are a tuple. -/
def argumentText : List Value → Text
  | [] => ""
  | [value] => value.worded
  | values => Value.shownTuple (Value.shownItems values)

/-- The report of an error whose message is made from its arguments. -/
def worded (kind : ErrorKind) (arguments : List Value) : Report :=
  plain kind (some (Refusal.withoutReason (argumentText arguments)))

def refusalKind? : ErrorKind → Option RefusalKind
  | .authError => some .authError
  | .missingToken => some .missingToken
  | .invalidToken => some .invalidToken
  | _ => none

/-- An argument that may be left out or null. -/
def given? : Option Value → Option Value
  | some .null => none
  | argument => argument

/-- The names among items, the first of which has the given index; or else what is said of the
first item that is none. -/
def namesFrom (index : Nat) : List Value → Except String (List Text)
  | [] => .ok []
  | .text name :: rest => (namesFrom (index + 1) rest).map (name :: ·)
  | item :: _ =>
    .error ("sequence item " ++ toString index ++ ": expected str instance, " ++ item.kindName ++
      " found")

/-- What is said of a value that cannot be gone through. -/
def notIterableMessage (value : Value) : String :=
  "'" ++ value.kindName ++ "' object is not iterable"

def argument? (name : String) (named : List (String × Value)) : Option Value :=
  (named.find? (·.1 == name)).map (·.2)

/-- The values of positional and named arguments, for parameters with these names.  Every argument
must have a place, and no place two arguments. -/
def bind (names : List String) (arguments : List Value) (named : List (String × Value)) :
    Option (List (Option Value)) :=
  if arguments.length > names.length then none
  else if named.all fun entry => (names.drop arguments.length).contains entry.1 then
    some (arguments.map some ++
      (names.drop arguments.length).map fun name => argument? name named)
  else none

/-- The report of an error that is made from arguments; `none` if they do not fit. -/
def new? (kind : ErrorKind) (arguments : List Value) (named : List (String × Value)) :
    Option Report :=
  match refusalKind? kind with
  | some refusal =>
    let description := given? (argument? "description" named)
    match bind ["message"] arguments (named.filter (·.1 != "description")) with
    | some [message] =>
      let made := Refusal.make refusal (given? message) description Refusal.unauthorized
      some { plain kind (some made.message) with
        answer := some (made.description, made.status) }
    | _ => none
  | none =>
    match kind with
    | .unrecognizedAlgorithm =>
      match bind ["name", "accepted"] arguments named with
      | some [some name, some accepted] =>
        match accepted.items?, name.isShowable with
        | none, _ => some (plain .typeError (some (notIterableMessage accepted)))
        | some _, false => some (plain .recursionError (some depthMessage))
        | some items, true =>
          match namesFrom 0 items with
          | .ok names =>
            let listed := Text.join ", " names
            some { plain kind (some (unrecognizedStart name ++ listed)) with
              unrecognized := some (name, names) }
          | .error message => some (plain .typeError (some ↑message))
      | _ => none
    | .invalidFormat =>
      match bind ["message"] arguments named with
      | some [some message] => some (worded kind [message])
      | some [none] => some (plain kind (some DecodeFailure.formatMessage))
      | _ => none
    | _ =>
      if named.isEmpty then some (worded kind arguments) else none

end Report

end SignedToken
