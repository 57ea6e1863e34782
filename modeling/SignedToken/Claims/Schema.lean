import SignedToken.Claims.Scalar
import SignedToken.Claims.Value

/-!
# Schemas

A schema says what claims are wanted, and checking a document against it gives the claims or all
that is wrong with them.  Scalars are converted where the document's scalar stands for the wanted
one; containers are never converted.
-/

namespace SignedToken

inductive Schema where
  | any
  | null
  | text
  | int
  | float
  | bool
  | list (item : Schema)
  | dict (entry : Schema)
  /-- A record has its fields in order, and some fields have a value for when they are missing. -/
  | record (type : RecordType) (fields : List (String × Schema × Option Value))

def RecordKind.issue : RecordKind → IssueKind
  | .model => .notModel
  | .dataclass => .notDataclass

namespace Schema

/-- Checks items, the first of which has the given index. -/
def checkItems {α : Type} (check : α → Checked Value) :
    (index : Nat) → List α → Checked (List Value)
  | _, [] => .ok []
  | index, item :: rest =>
    Checked.both List.cons ((check item).within (.item index)) (checkItems check (index + 1) rest)

/-- Checks the members of an object, also those whose name is written again later. -/
def checkMembers (check : Json → Checked Value) :
    List (String × Json) → Checked (List (String × Value))
  | [] => .ok []
  | (name, value) :: rest =>
    Checked.both (fun first others => (name, first) :: others)
      ((check value).within (.field name)) (checkMembers check rest)

/-- A dict with texts as keys; of a repeated name the last value counts. -/
def dictOfMembers (members : List (String × Value)) : Value :=
  .dict ((Json.distinct (· == ·) members).map fun (name, value) => (.text name, value))

mutual

def check : Schema → Json → Checked Value
  | .any, document => .ok (.ofJson document)
  | .null, .null => .ok .null
  | .null, _ => Checked.fail .nullRequired
  | .text, .text value => .ok (.text value)
  | .text, _ => Checked.fail .notText
  | .int, document => (Scalar.toInt document).map .int
  | .float, document => (Scalar.toFloat document).map .float
  | .bool, document => (Scalar.toBool document).map .bool
  | .list item, .array items => (checkItems (check item) 0 items).map .list
  | .list _, _ => Checked.fail .notList
  | .dict entry, .object members => (checkMembers (check entry) members).map dictOfMembers
  | .dict _, _ => Checked.fail .notDict
  | .record type fields, .object members => (checkFields fields members).map (.record type)
  | .record type _, _ => Checked.fail type.kind.issue

/-- The fields of a record, found by their names; members with other names do not matter. -/
def checkFields :
    List (String × Schema × Option Value) → List (String × Json) → Checked (List (String × Value))
  | [], _ => .ok []
  | (name, schema, default) :: rest, members =>
    let found : Checked Value :=
      match Json.last? name members, default with
      | some document, _ => check schema document
      | none, some value => .ok value
      | none, none => Checked.fail .missing
    Checked.both (fun first others => (name, first) :: others)
      (found.within (.field name)) (checkFields rest members)

end

end Schema

end SignedToken
