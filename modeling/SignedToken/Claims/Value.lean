import SignedToken.Algorithm
import SignedToken.Json.Basic
import SignedToken.Text.Basic

/-!
# Claims

Claims are whatever value an application hands over: the kinds of JSON, and besides them byte
strings, tuples, sets, dicts with keys of any kind, records and algorithms.  `foreign` stands for an
object of some other kind and `cycle` for a list that holds itself; neither can be written.
-/

namespace SignedToken

/-- Two kinds of record: a model checks what it is made from, a dataclass takes it as it is. -/
inductive RecordKind where
  | model
  | dataclass
  deriving DecidableEq, Repr

structure RecordType where
  name : String
  kind : RecordKind
  deriving DecidableEq, Repr

inductive Value where
  | null
  | bool (value : Bool)
  | int (value : Int)
  | float (value : Binary64)
  | text (value : Text)
  | bytes (value : Bytes)
  | buffer (value : Bytes)
  | list (items : List Value)
  | tuple (items : List Value)
  | set (items : List Value)
  | dict (entries : List (Value × Value))
  | record (type : RecordType) (fields : List (String × Value))
  | algorithm (value : Algorithm)
  | foreign
  | cycle
  deriving Inhabited

namespace Value

def kindName : Value → String
  | .null => "NoneType"
  | .bool _ => "bool"
  | .int _ => "int"
  | .float _ => "float"
  | .text _ => "str"
  | .bytes _ => "bytes"
  | .buffer _ => "bytearray"
  | .list _ => "list"
  | .tuple _ => "tuple"
  | .set _ => "set"
  | .dict _ => "dict"
  | .record type _ => type.name
  | .algorithm _ => "SigningAlgorithm"
  | .foreign => "object"
  | .cycle => "list"

/-- What going through a value yields: the code points of a text, the bytes of a byte string, the
items of a container, the keys of a dict, and the fields of a model as pairs. -/
def items? : Value → Option (List Value)
  | .text content => some (content.toList.map fun point => .text ⟨[point]⟩)
  | .bytes content => some (content.map fun byte => .int byte.toNat)
  | .buffer content => some (content.map fun byte => .int byte.toNat)
  | .list items => some items
  | .tuple items => some items
  | .set items => some items
  | .dict entries => some (entries.map (·.1))
  | .record type fields =>
    match type.kind with
    | .model => some (fields.map fun (name, value) => .tuple [.text name, value])
    | .dataclass => none
  | .cycle => some [.cycle]
  | _ => none

/-- The integer that a number or truth value is equal to. -/
def integral? : Value → Option Int
  | .bool value => some (if value then 1 else 0)
  | .int value => some value
  | .float value => value.toInt?
  | _ => none

/-- Whether one value replaces the other as a key of a dict: numbers and truth values are compared
by their size, and a number that is not a number is equal to nothing. -/
def sameKey (left right : Value) : Bool :=
  match left.integral?, right.integral? with
  | some first, some second => first == second
  | some _, none => false
  | none, some _ => false
  | none, none =>
    match left, right with
    | .null, .null => true
    | .float first, .float second => first == second && first != .nan
    | .text first, .text second => first == second
    | .bytes first, .bytes second => first == second
    | .algorithm first, .algorithm second => first == second
    | .tuple [], .tuple [] => true
    | .tuple (first :: rest), .tuple (second :: more) =>
      sameKey first second && sameKey (.tuple rest) (.tuple more)
    | _, _ => false

/-- Whether a value may be a key of a dict or an item of a set: it must never change. -/
def isKey : Value → Bool
  | .buffer _ => false
  | .list _ => false
  | .set _ => false
  | .dict _ => false
  | .record .. => false
  | .cycle => false
  | .tuple [] => true
  | .tuple (first :: rest) => isKey first && isKey (.tuple rest)
  | _ => true

def dictOf (entries : List (Value × Value)) : Value := .dict (Json.distinct sameKey entries)

mutual

/-- What a document says; of a repeated name the last value counts. -/
def ofJson : Json → Value
  | .null => .null
  | .bool value => .bool value
  | .int value => .int value
  | .float value => .float value
  | .text value => .text value
  | .array items => .list (ofItems items)
  | .object members =>
    let entries := Json.distinct (· == ·) (ofMembers members)
    .dict (entries.map fun (name, value) => (.text name, value))

def ofItems : List Json → List Value
  | [] => []
  | item :: rest => ofJson item :: ofItems rest

def ofMembers : List (String × Json) → List (String × Value)
  | [] => []
  | (name, value) :: rest => (name, ofJson value) :: ofMembers rest

end

end Value

end SignedToken
