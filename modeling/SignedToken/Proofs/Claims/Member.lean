import SignedToken.Header.Wire
import SignedToken.Proofs.Claims.Accepted

/-!
# Members of a document

Of a name that is written more than once in an object, the reader sees the value
that was written last.  What is looked up in the value of an object is therefore
the value of the last member with that name.
-/

namespace SignedToken

namespace Json

variable {ν : Type}

theorem last?_cons (name : String) (member : String × ν) (rest : List (String × ν)) :
    last? name (member :: rest) =
      (last? name rest).or (if member.1 == name then some member.2 else none) := by
  simp only [last?, List.reverse_cons, List.find?_append, List.find?_singleton]
  cases List.find? (·.1 == name) rest.reverse with
  | none => by_cases hname : (member.1 == name) = true <;> simp [hname]
  | some later => rfl

theorem last?_map {μ : Type} (change : ν → μ) (name : String) (members : List (String × ν)) :
    last? name (members.map fun member => (member.1, change member.2)) =
      (last? name members).map change := by
  induction members with
  | nil => rfl
  | cons member rest ih =>
      rw [List.map_cons, last?_cons, last?_cons, ih]
      cases last? name rest with
      | none => by_cases hname : (member.1 == name) = true <;> simp [hname]
      | some later => rfl

/-- The value under a name in a list where no name is repeated. -/
def under? (name : String) (entries : List (String × ν)) : Option ν :=
  (entries.find? (·.1 == name)).map (·.2)

/-- Setting a value changes what is found under its own name only. -/
theorem under?_put (name key : String) (value : ν) (done : List (String × ν)) :
    under? name (put (· == ·) key value done) =
      if key == name then some value else under? name done := by
  induction done with
  | nil => by_cases hkey : (key == name) = true <;> simp [put, under?, hkey]
  | cons entry rest ih =>
      by_cases hsame : entry.1 = key
      · subst hsame
        by_cases hname : (entry.1 == name) = true <;> simp [put, under?, hname]
      · rw [put, if_neg (by simpa using hsame)]
        by_cases hname : entry.1 = name
        · have hkey : key ≠ name := fun heq => hsame (hname.trans heq.symm)
          simp [under?, hname, hkey]
        · simpa [under?, hname] using ih

/-- Of members that are put one after the other, the last one of each name counts. -/
theorem under?_foldl_put (name : String) (members : List (String × ν)) :
    ∀ done : List (String × ν),
      under? name (members.foldl (fun done entry => put (· == ·) entry.1 entry.2 done) done) =
        (last? name members).or (under? name done) := by
  induction members with
  | nil => exact fun done => rfl
  | cons member rest ih =>
      intro done
      rw [List.foldl_cons, ih, under?_put, last?_cons]
      cases last? name rest with
      | none => by_cases hname : (member.1 == name) = true <;> simp [hname]
      | some later => rfl

/-- Of a repeated name the last value stands. -/
theorem under?_distinct (name : String) (members : List (String × ν)) :
    under? name (distinct (· == ·) members) = last? name members := by
  calc under? name (distinct (· == ·) members)
      = (last? name members).or (under? name []) := under?_foldl_put name members []
    _ = last? name members := Option.or_none

end Json

namespace Header

theorem member?_textEntries (name : String) (entries : List (String × Value)) :
    member? name (entries.map fun entry => (.text entry.1, entry.2)) =
      Json.under? name entries := by
  rw [member?, Json.under?, List.find?_map, Option.map_map]
  refine congrArg (Option.map (·.2)) (congrArg (List.find? · entries) ?_)
  funext entry
  exact Text.ofString_beq entry.1 name

end Header

/-- A member of the value of an object is the last one that was written with its name. -/
theorem Value.exists_entries_of_object (members : List (String × Json)) :
    ∃ entries, Value.ofJson (.object members) = .dict entries ∧
      ∀ name, Header.member? name entries = (Json.last? name members).map Value.ofJson := by
  refine ⟨_, Value.ofJson_object members, fun name => ?_⟩
  calc Header.member? name _
      = Json.under? name (Json.distinct (· == ·) (Value.ofMembers members)) :=
        Header.member?_textEntries name _
    _ = Json.last? name (Value.ofMembers members) := Json.under?_distinct name _
    _ = (Json.last? name members).map Value.ofJson := by
        rw [Value.ofMembers_eq_map, Json.last?_map]

end SignedToken
