/-!
# Issues

An issue says what is wrong with a document, or with a part of it, and where that part is.
-/

namespace SignedToken

inductive Step where
  | field (name : String)
  | item (index : Nat)
  deriving DecidableEq, Repr

inductive IssueKind where
  | notJson
  | nullRequired
  | notText
  | textUnreadable
  | notInteger
  | integerUnreadable
  | integerTooLarge
  | integerFraction
  | notFinite
  | notNumber
  | numberUnreadable
  | notTruth
  | truthUnreadable
  | notList
  | notDict
  | notModel
  | notDataclass
  | missing
  | notAllowed
  | unfit
  deriving DecidableEq, Repr

def IssueKind.name : IssueKind → String
  | .notJson => "json_invalid"
  | .nullRequired => "none_required"
  | .notText => "string_type"
  | .textUnreadable => "string_unicode"
  | .notInteger => "int_type"
  | .integerUnreadable => "int_parsing"
  | .integerTooLarge => "int_parsing_size"
  | .integerFraction => "int_from_float"
  | .notFinite => "finite_number"
  | .notNumber => "float_type"
  | .numberUnreadable => "float_parsing"
  | .notTruth => "bool_type"
  | .truthUnreadable => "bool_parsing"
  | .notList => "list_type"
  | .notDict => "dict_type"
  | .notModel => "model_type"
  | .notDataclass => "dataclass_type"
  | .missing => "missing"
  | .notAllowed => "extra_forbidden"
  | .unfit => "value_error"

structure Issue where
  location : List Step
  kind : IssueKind
  deriving DecidableEq, Repr

namespace Issue

def whole (kind : IssueKind) : Issue := ⟨[], kind⟩

/-- An issue with a part, told of the document that holds the part. -/
def within (step : Step) (issue : Issue) : Issue :=
  { issue with location := step :: issue.location }

end Issue

/-- Either a result, or all issues in the order of the parts. -/
abbrev Checked (α : Type) := Except (List Issue) α

namespace Checked

def fail {α : Type} (kind : IssueKind) : Checked α := .error [Issue.whole kind]

/-- What a check of a part means for the document that holds it. -/
def within {α : Type} (step : Step) : Checked α → Checked α
  | .ok result => .ok result
  | .error issues => .error (issues.map (Issue.within step))

def both {α β γ : Type} (combine : α → β → γ) : Checked α → Checked β → Checked γ
  | .ok first, .ok second => .ok (combine first second)
  | .ok _, .error issues => .error issues
  | .error issues, .ok _ => .error issues
  | .error issues, .error more => .error (issues ++ more)

end Checked

end SignedToken
