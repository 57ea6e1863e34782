import SignedToken.Base64.Lines
import SignedToken.Text.Blank
import SignedToken.Text.Search
import SignedToken.Text.Utf8

/-!
# Key files

A key file holds blocks of bytes as base64 between two lines that name what the bytes are.  Text
around the blocks does not matter.  Lines may have any length, blanks in the base64 do not matter,
and a blank line divides header lines, which have a colon each, from the base64.
-/

namespace SignedToken

/-- One block of a key file. -/
structure Pem where
  label : Bytes
  /-- The names and the values of the header lines. -/
  headers : List (String × String)
  content : Bytes

namespace Pem

def beginMark : Bytes := Bytes.ofAscii "-----BEGIN "

def endMark : Bytes := Bytes.ofAscii "-----END "

def closingMark : Bytes := Bytes.ofAscii "-----"

/-! ## Writing -/

def encode (label content : Bytes) : Bytes :=
  beginMark ++ label ++ closingMark ++ [10] ++
    Bytes.ofAscii (String.ofList (Base64.Lines.encodeLines content)) ++
    endMark ++ label ++ closingMark ++ [10]

/-! ## Reading -/

def isSpace (byte : Byte) : Bool := byte == 32 || byte == 9 || byte == 10 || byte == 13

/-- A block as it stands in a file, before anything is checked. -/
structure Raw where
  opening : Bytes
  body : Bytes
  closing : Bytes

def Raw.first? (bytes : Bytes) : Option (Raw × Bytes) := do
  let (_, rest) ← Search.breakAtRun? beginMark bytes
  let (opening, rest) ← Search.breakAtRun? closingMark rest
  let (body, rest) ← Search.breakAtRun? endMark (rest.dropWhile isSpace)
  let (closing, rest) ← Search.breakAtRun? closingMark rest
  some (⟨opening, body, closing⟩, rest)

/-- The blocks up to the first one that is not closed; `fuel` is spent on every block. -/
def Raw.all : (fuel : Nat) → Bytes → List Raw
  | 0, _ => []
  | fuel + 1, bytes =>
    match Raw.first? bytes with
    | some (block, rest) => block :: Raw.all fuel rest
    | none => []

/-- The header lines and the base64 of a body. -/
def splitHeaders (body : List Char) : List Char × List Char :=
  match Search.breakAtRun? ['\n', '\n'] body with
  | some parts => parts
  | none => (Search.breakAtRun? ['\r', '\n', '\r', '\n'] body).getD ([], body)

/-- What stands before and after the colon of a header line, without the blanks around it. -/
def headerParts? (line : List Char) : Option (String × String) :=
  (Search.breakAt? [':'] line).map fun (name, value) =>
    (String.ofList (Blank.trim Blank.isWhiteSpace name),
      String.ofList (Blank.trim Blank.isWhiteSpace value))

def lines (chars : List Char) : List (List Char) :=
  let pieces := Search.splitAt (· == '\n') chars
  if pieces.getLast? == some [] then pieces.dropLast else pieces

def headerLines? (headers : List Char) : Option (List (String × String)) :=
  (lines headers).mapM headerParts?

/-- A block whose two lines name the same, if it is well formed. -/
def ofRaw? (raw : Raw) : Option Pem := do
  let _ ← Utf8.decode raw.opening
  let text ← Utf8.decode raw.body
  let (headers, base64) := splitHeaders text.toList
  let headers ← headerLines? headers
  let content ← Base64.Lines.decode (base64.filter (!Blank.isWhiteSpace ·))
  if raw.opening.isEmpty || raw.opening != raw.closing then none
  else some ⟨raw.opening, headers, content⟩

/-- The value of a header line; of several with one name the last counts. -/
def header? (block : Pem) (name : String) : Option String :=
  (block.headers.reverse.find? (·.1 == name)).map (·.2)

def decode (bytes : Bytes) : Option Pem := do
  let (raw, _) ← Raw.first? bytes
  ofRaw? raw

/-- All blocks of a file, if all are well formed. -/
def decodeAll (bytes : Bytes) : Option (List Pem) := (Raw.all bytes.length bytes).mapM ofRaw?

end Pem

end SignedToken
