import SignedToken.Number.Binary64

/-!
# JSON documents

A document as it is written: members of an object are kept in their order, and a name that is
written twice is there twice.  `distinct` gives the members that a reader sees, where the last
value of a repeated name counts and stands in the place of the first.
-/

namespace SignedToken

inductive Json where
  | null
  | bool (value : Bool)
  | int (value : Int)
  | float (value : Binary64)
  | text (value : String)
  | array (items : List Json)
  | object (members : List (String × Json))
  deriving Inhabited

namespace Json

/-- Sets a value in an ordered list of entries: in place if the key is there, else at the end. -/
def put {κ ν : Type} (same : κ → κ → Bool) (key : κ) (value : ν) : List (κ × ν) → List (κ × ν)
  | [] => [(key, value)]
  | entry :: rest =>
    if same entry.1 key then (entry.1, value) :: rest else entry :: put same key value rest

/-- The entries that remain when each one replaces the earlier ones with its key. -/
def distinct {κ ν : Type} (same : κ → κ → Bool) (entries : List (κ × ν)) : List (κ × ν) :=
  entries.foldl (fun done entry => put same entry.1 entry.2 done) []

/-- The last value written for a name. -/
def last? {ν : Type} (name : String) (members : List (String × ν)) : Option ν :=
  (members.reverse.find? (·.1 == name)).map (·.2)

end Json

end SignedToken
