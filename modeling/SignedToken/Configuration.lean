import SignedToken.Claims.Instance
import SignedToken.Settings

/-!
# Settings by name

Settings may also be given by name, without regard to case.  What is given wins over the
environment, must stand for a text, and must have the name of a setting.
-/

namespace SignedToken.Settings

def isFieldName (name : String) : Bool := lowerAscii name == fieldName

/-- The text that is given for the setting, or else the one of the environment. -/
def checkText (environment : Environment) : Option Value → Checked Settings
  | none => .ok (ofEnvironment environment)
  | some value => (Instance.toText value).map Settings.mk

/-- Issues with what is given under other names. -/
def otherNames (given : List (String × Value)) : List Issue :=
  (given.filter (!isFieldName ·.1)).map fun entry => ⟨[.field entry.1], .notAllowed⟩

/-- The settings with some of them given by name; of several spellings of a name the last counts. -/
def ofGiven (environment : Environment) (given : List (String × Value)) : Checked Settings :=
  let value := (given.reverse.find? (isFieldName ·.1)).map (·.2)
  let checked := (checkText environment value).within (.field fieldName)
  match checked, otherNames given with
  | .ok settings, [] => .ok settings
  | .ok _, issues => .error issues
  | .error issues, more => .error (issues ++ more)

end SignedToken.Settings
