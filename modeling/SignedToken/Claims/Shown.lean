import SignedToken.Claims.Value
import SignedToken.Json.Writer
import SignedToken.Text.Quoted

/-!
# Values shown to people

The text by which an error message shows a value: text and byte strings are quoted, containers hold
their parts between brackets, and names begin with a capital letter.  Values inside too many others
are not shown.
-/

namespace SignedToken.Value

def listed (parts : List String) : String := String.intercalate ", " parts

/-- An algorithm between angle brackets, by its member name and its value. -/
def shownAlgorithm (algorithm : Algorithm) : String :=
  "<SigningAlgorithm." ++ algorithm.name ++ ": " ++ Quoted.text algorithm.name ++ ">"

def shownSet (parts : List String) : String :=
  if parts.isEmpty then "set()" else "\x7b" ++ listed parts ++ "\x7d"

/-- A tuple; the only part of a tuple of one is followed by a comma. -/
def shownTuple : List String → String
  | [part] => "(" ++ part ++ ",)"
  | parts => "(" ++ listed parts ++ ")"

/-- A value with parts inside more others than this is not shown. -/
def deepestShown : Nat := 985

mutual

/-- Whether the parts of a value lie inside at most `levels` others. -/
def isShallow (levels : Nat) : Value → Bool
  | .list items => 0 < levels && areShallow (levels - 1) items
  | .tuple items => 0 < levels && areShallow (levels - 1) items
  | .set items => 0 < levels && areShallow (levels - 1) items
  | .dict entries => 0 < levels && areShallowEntries (levels - 1) entries
  | .record _ fields => 0 < levels && areShallowFields (levels - 1) fields
  | _ => true

def areShallow (levels : Nat) : List Value → Bool
  | [] => true
  | item :: rest => isShallow levels item && areShallow levels rest

def areShallowEntries (levels : Nat) : List (Value × Value) → Bool
  | [] => true
  | (key, value) :: rest =>
    isShallow levels key && isShallow levels value && areShallowEntries levels rest

def areShallowFields (levels : Nat) : List (String × Value) → Bool
  | [] => true
  | (_, value) :: rest => isShallow levels value && areShallowFields levels rest

end

def isShowable (value : Value) : Bool := isShallow deepestShown value

mutual

def shown : Value → String
  | .null => "None"
  | .bool value => if value then "True" else "False"
  | .int value => String.ofList (Json.renderInt value)
  | .float value => String.ofList (FloatLayout.shown.render value)
  | .text value => Quoted.text value
  | .bytes value => "b" ++ Quoted.bytes value
  | .buffer value => "bytearray(b" ++ Quoted.bytes value ++ ")"
  | .list items => "[" ++ listed (shownItems items) ++ "]"
  | .tuple items => shownTuple (shownItems items)
  | .set items => shownSet (shownItems items)
  | .dict entries => "\x7b" ++ listed (shownEntries entries) ++ "\x7d"
  | .record type fields => type.name ++ "(" ++ listed (shownFields fields) ++ ")"
  | .algorithm value => shownAlgorithm value
  | .foreign => "<object>"
  | .cycle => "[[...]]"

def shownItems : List Value → List String
  | [] => []
  | item :: rest => shown item :: shownItems rest

def shownEntries : List (Value × Value) → List String
  | [] => []
  | (key, value) :: rest => (shown key ++ ": " ++ shown value) :: shownEntries rest

def shownFields : List (String × Value) → List String
  | [] => []
  | (name, value) :: rest => (name ++ "=" ++ shown value) :: shownFields rest

end

/-- The text that a value makes as a message: a text and the name of an algorithm stand without
quotes, and a model is only its fields. -/
def worded : Value → Text
  | .text content => content
  | .algorithm value => value.name
  | .record type fields =>
    match type.kind with
    | .model => String.intercalate " " (shownFields fields)
    | .dataclass => shown (.record type fields)
  | value => shown value

end SignedToken.Value
