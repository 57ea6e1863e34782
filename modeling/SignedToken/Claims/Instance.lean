import SignedToken.Claims.Catalog
import SignedToken.Failure.Basic

/-!
# Instances of records

An application makes a record from named values.  A model converts each value to what the schema of
its field wants: scalars as in documents, and besides them byte strings, which stand for the text
that they encode; whatever yields items may be given for a list.  An algorithm is taken by its name,
where a text is wanted and where an integer is.  A dataclass takes its values as they are.
-/

namespace SignedToken.Instance

/-- The text that bytes encode, or else an issue. -/
def decoded (fault : IssueKind) (bytes : Bytes) : Checked String :=
  match Utf8.decode bytes with
  | some content => .ok content
  | none => Checked.fail fault

/-- The characters of a text, which stands for a number or a truth value. -/
def characters (content : Text) : Checked String :=
  match content.toString? with
  | some chars => .ok chars
  | none => Checked.fail .textUnreadable

def toText : Value → Checked Text
  | .text content => .ok content
  | .algorithm value => .ok value.name
  | .bytes content => (decoded .textUnreadable content).map .ofString
  | .buffer content => (decoded .textUnreadable content).map .ofString
  | _ => Checked.fail .notText

def toInt : Value → Checked Int
  | .bool value => .ok (if value then 1 else 0)
  | .int value => .ok value
  | .float value => Scalar.intOfFloat value
  | .text content => (characters content).bind Scalar.parseInt
  | .bytes content => (decoded .integerUnreadable content).bind Scalar.parseInt
  | _ => Checked.fail .notInteger

def toBool : Value → Checked Bool
  | .bool value => .ok value
  | .int value => Scalar.boolOfInt value
  | .float value => Scalar.boolOfFloat value
  | .text content => (characters content).bind Scalar.parseBool
  | .bytes content => (decoded .truthUnreadable content).bind Scalar.parseBool
  | _ => Checked.fail .notTruth

def listItems? : Value → Option (List Value)
  | .text _ => none
  | .bytes _ => none
  | .buffer _ => none
  | .dict _ => none
  | value => value.items?

/-- What a model makes of a value for a field.  Models have fields of a few schemas only; for all
others a value would be taken as it is. -/
def convert : Schema → Value → Checked Value
  | .text, value => (toText value).map .text
  | .int, .algorithm value => .ok (.text value.name)
  | .int, value => (toInt value).map .int
  | .bool, value => (toBool value).map .bool
  | .list item, value =>
    match listItems? value with
    | some items => (Schema.checkItems (convert item) 0 items).map .list
    | none => Checked.fail .notList
  | _, value => .ok value

/-- The fields of a model; values with other names do not matter. -/
def modelFields (given : List (String × Value)) :
    List (String × Schema × Option Value) → Checked (List (String × Value))
  | [] => .ok []
  | (name, schema, default) :: rest =>
    let found : Checked Value :=
      match Json.last? name given, default with
      | some value, _ => convert schema value
      | none, some value => .ok value
      | none, none => Checked.fail .missing
    Checked.both (fun first others => (name, first) :: others)
      (found.within (.field name)) (modelFields given rest)

/-- The fields of a dataclass, if none is missing and no other name is given. -/
def dataclassFields? (given : List (String × Value))
    (fields : List (String × Schema × Option Value)) : Option (List (String × Value)) :=
  if given.all fun entry => fields.any (·.1 == entry.1) then
    fields.mapM fun (name, _, default) =>
      ((Json.last? name given).or default).map (name, ·)
  else none

def make (schema : Schema) (given : List (String × Value)) : Except Failure Value :=
  match schema with
  | .record type fields =>
    match type.kind with
    | .model =>
      match modelFields given fields with
      | .ok fields => .ok (.record type fields)
      | .error issues => .error (.rejected issues)
    | .dataclass =>
      match dataclassFields? given fields with
      | some fields => .ok (.record type fields)
      | none => .error .wrongArguments
  | _ => .error .wrongArguments

end SignedToken.Instance
