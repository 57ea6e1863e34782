import SignedToken.Http.Target
import SignedToken.Text.Blank
import SignedToken.Text.Hex
import SignedToken.Text.Search
import SignedToken.Text.Utf8

/-!
# Requests

Of a request only its header fields and its path matter.  Names of fields are told apart neither by
case nor by hyphens and underscores, and the values of fields with one name count as one list.  The
type and the length of the content stand for themselves: of fields with these names one counts, and
a length has to be a number.  Every request has a host.
-/

namespace SignedToken.Http

structure Request where
  fields : List (String × String)
  /-- What is asked for, as it is written in the request. -/
  target : String

/-- The form by which names of fields are compared. -/
def fieldKey (name : String) : List Char :=
  name.toList.map fun char => if char = '-' then '_' else char.toUpper

/-- A request, unless a value of a field holds a line break. -/
def Request.make? (fields : List (String × String)) (target : String) : Option Request :=
  let isBreak (char : Char) : Bool := char == '\n' || char == '\r'
  if fields.any fun field => field.2.toList.any isBreak then none else some ⟨fields, target⟩

def typeKey : List Char := fieldKey "Content-Type"

def lengthKey : List Char := fieldKey "Content-Length"

def hostKey : List Char := fieldKey "Host"

def defaultHost : String := "localhost"

/-- The values of the fields with a name, with commas between them. -/
def Request.field? (request : Request) (name : String) : Option String :=
  let key := fieldKey name
  let values := (request.fields.filter fun field => fieldKey field.1 == key).map (·.2)
  if key = typeKey then values.head?
  else if key = lengthKey then
    values.head?.filter fun value => !value.isEmpty && value.toList.all Char.isDigit
  else if values.isEmpty then (if key = hostKey then some defaultHost else none)
  else some (String.intercalate ", " values)

/-- Bytes of a text in which a percent sign and two digits stand for a byte. -/
def percentDecode : List Char → Bytes
  | [] => []
  | '%' :: high :: low :: rest =>
    match Hex.value? high, Hex.value? low with
    | some first, some second => UInt8.ofNat (first * 16 + second) :: percentDecode rest
    | _, _ => 37 :: percentDecode (high :: low :: rest)
  | char :: rest => Utf8.encode (String.ofList [char]) ++ percentDecode rest

/-- The path of a request, decoded and without its query; it starts with exactly one slash. -/
def Request.path (request : Request) : String :=
  let decoded := (Utf8.decodeLenient (percentDecode (Target.path request.target))).toList
  String.ofList ('/' :: decoded.dropWhile (· == '/'))

end SignedToken.Http
