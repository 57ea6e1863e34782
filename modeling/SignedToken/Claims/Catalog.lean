import SignedToken.Claims.Schema

/-!
# Catalog of schemas

The schemas that go by a name: those of plain values, and records that tokens often carry.
-/

namespace SignedToken.Schema

def required (name : String) (schema : Schema) : String × Schema × Option Value :=
  (name, schema, none)

def point : Schema := .record ⟨"Point", .dataclass⟩ [required "x" .int, required "y" .int]

def subject : Schema := .record ⟨"Subject", .dataclass⟩ [required "sub" .text]

def named : Schema := .record ⟨"Named", .model⟩ [required "name" .text]

def jwtIoClaims : Schema :=
  .record ⟨"JwtIoClaims", .model⟩
    [required "sub" .text, required "name" .text, required "iat" .int]

def adminClaims : Schema :=
  .record ⟨"AdminClaims", .model⟩ [required "sub" .text, required "admin" .bool]

def userClaims : Schema :=
  .record ⟨"UserClaims", .model⟩
    [required "sub" .text, ("roles", .list .text, some (.list []))]

/-- A dict of anything, which claims are unless something else is wanted. -/
def claims : Schema := .dict .any

def catalog : List (String × Schema) :=
  [("any", .any), ("dict", claims), ("list", .list .any), ("int", .int), ("str", .text),
    ("bool", .bool), ("float", .float), ("none", .null), ("list[int]", .list .int),
    ("list[str]", .list .text), ("dict[str,int]", .dict .int), ("Point", point),
    ("Subject", subject), ("Named", named), ("JwtIoClaims", jwtIoClaims),
    ("AdminClaims", adminClaims), ("UserClaims", userClaims)]

def named? (name : String) : Option Schema := (catalog.find? (·.1 == name)).map (·.2)

end SignedToken.Schema
