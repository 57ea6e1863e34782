import SignedToken.Claims.Value
import SignedToken.Json.Writer

/-!
# Claims as documents

A value is written as the document that has its shape: tuples and sets become arrays, byte strings
become the text that they encode, an algorithm becomes its name, and records and dicts become
objects in the order of their entries.  Foreign objects, texts with lone surrogates, byte strings
that encode no text and values inside too many others cannot be written.  What a model holds is as
deep as its schema says, so only the model itself is counted; an algorithm counts twice, as a value
and as its name.
-/

namespace SignedToken.Value

/-- A value inside this many others is not written. -/
def deepest : Nat := 255

mutual

/-- The name that a key of a dict is written as. -/
def keyText? : Value → Option String
  | .null => some "None"
  | .bool value => some (if value then "true" else "false")
  | .int value => some (String.ofList (Json.renderInt value))
  | .float value => some (String.ofList (FloatLayout.shown.render value))
  | .text value => value.toString?
  | .bytes value => Utf8.decode value
  | .algorithm value => some value.name
  | .tuple items => (keyTexts? items).map fun texts => String.intercalate "," texts
  | _ => none

def keyTexts? : List Value → Option (List String)
  | [] => some []
  | item :: rest => do
    let first ← keyText? item
    let others ← keyTexts? rest
    some (first :: others)

end

/-- How many values the fields of a record count as lying inside, if the record lies inside
`inside` others. -/
def fieldsInside (inside : Nat) : RecordKind → Nat
  | .model => 0
  | .dataclass => inside + 1

mutual

/-- The document of a value that lies inside `inside` others. -/
def writeAt (inside : Nat) (value : Value) : Option Json :=
  if inside ≥ deepest then none
  else
    match value with
    | .null => some .null
    | .bool value => some (.bool value)
    | .int value => some (.int value)
    | .float value => some (.float value)
    | .text value => value.toString?.map .text
    | .bytes value => (Utf8.decode value).map .text
    | .buffer value => (Utf8.decode value).map .text
    | .list items => (writeItems (inside + 1) items).map .array
    | .tuple items => (writeItems (inside + 1) items).map .array
    | .set items => (writeItems (inside + 1) items).map .array
    | .dict entries => (writeEntries (inside + 1) entries).map .object
    | .record type fields => (writeFields (fieldsInside inside type.kind) fields).map .object
    | .algorithm value => if inside + 1 ≥ deepest then none else some (.text value.name)
    | .foreign => none
    | .cycle => none

def writeItems (inside : Nat) : List Value → Option (List Json)
  | [] => some []
  | item :: rest => do
    let first ← writeAt inside item
    let others ← writeItems inside rest
    some (first :: others)

def writeEntries (inside : Nat) : List (Value × Value) → Option (List (String × Json))
  | [] => some []
  | (key, value) :: rest => do
    let name ← keyText? key
    let first ← writeAt inside value
    let others ← writeEntries inside rest
    some ((name, first) :: others)

def writeFields (inside : Nat) : List (String × Value) → Option (List (String × Json))
  | [] => some []
  | (name, value) :: rest => do
    let first ← writeAt inside value
    let others ← writeFields inside rest
    some ((name, first) :: others)

end

def toJson? (value : Value) : Option Json := writeAt 0 value

end SignedToken.Value
