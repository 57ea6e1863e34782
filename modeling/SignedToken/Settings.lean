import SignedToken.Text.Blank
import SignedToken.Text.Search

/-!
# Settings

The only setting is a list of names of algorithms that are switched off, separated by commas.  It
comes from the environment, where the name of the variable is matched without regard to case.
-/

namespace SignedToken

/-- Named texts in the order in which they were first set. -/
abbrev Environment := List (String × Text)

namespace Environment

def set (name : String) (value : Text) : Environment → Environment
  | [] => [(name, value)]
  | entry :: rest => if entry.1 = name then (name, value) :: rest else entry :: set name value rest

def unset (name : String) (environment : Environment) : Environment :=
  environment.filter (·.1 ≠ name)

end Environment

structure Settings where
  disabledAlgorithms : Text
  deriving DecidableEq, Repr

namespace Settings

/-- The variable that holds the setting, in lower case. -/
def variableName : String := "jws_disabled_algorithms"

def fieldName : String := "disabled_algorithms"

def lowerAscii (text : String) : String := String.ofList (text.toList.map Char.toLower)

/-- The setting as the environment has it; of several spellings of the variable the last counts. -/
def ofEnvironment (environment : Environment) : Settings :=
  let matching := environment.filter fun entry => lowerAscii entry.1 == variableName
  ⟨(matching.getLast?.map (·.2)).getD ""⟩

/-- The names that are switched off: the pieces without the blanks around them, if any is left. -/
def disabledNames (settings : Settings) : List Text :=
  let pieces := Search.splitAt (· == .char ',') settings.disabledAlgorithms.toList
  let names := pieces.map (Blank.trim Blank.isBlankPoint)
  (names.filter (!·.isEmpty)).map Text.ofList

/-- The numbers of the code points of a text, by which texts are put in order. -/
def numbers (text : Text) : List Nat := text.toList.map CodePoint.number

/-- The names that are switched off, each once and in the order of their code points. -/
def listing (settings : Settings) : List Text :=
  settings.disabledNames.eraseDups.mergeSort fun left right =>
    !decide (numbers right < numbers left)

end Settings

end SignedToken
