import SignedToken.Json.Reader
import SignedToken.Text.Encoding

/-!
# Key documents

A key may be written as a document that tells its type in a member `kty`.  Documents that are too
deep to be read are judged by their text alone, so that depth hides no key.
-/

namespace SignedToken.KeyDocument

def typeName : String := "kty"

mutual

/-- Whether some object in a document tells the type of a key.  Of a member that is written again
later only the name counts. -/
def hasType : Json → Bool
  | .array items => hasTypeItems items
  | .object members => hasTypeMembers members
  | _ => false

def hasTypeItems : List Json → Bool
  | [] => false
  | item :: rest => hasType item || hasTypeItems rest

def hasTypeMembers : List (String × Json) → Bool
  | [] => false
  | (name, value) :: rest =>
    name == typeName || (!rest.any (·.1 == name) && hasType value) || hasTypeMembers rest

end

/-- The characters after a letter that is written as itself or by its number. -/
def afterLetter? (letter : Char) : List Char → Option (List Char)
  | '\\' :: 'u' :: a :: b :: c :: d :: rest =>
    if Hex.four? a b c d = some letter.toNat then some rest else none
  | char :: rest => if char = letter then some rest else none
  | [] => none

def afterLetters? : (letters : List Char) → List Char → Option (List Char)
  | [], chars => some chars
  | letter :: letters, chars => afterLetter? letter chars >>= afterLetters? letters

/-- Whether a text starts with the name of the member, quoted and followed by a colon. -/
def startsWithType (chars : List Char) : Bool :=
  match chars with
  | '"' :: rest =>
    match afterLetters? typeName.toList rest with
    | some ('"' :: rest) => (Json.skipBlanks rest).head? == some ':'
    | _ => false
  | _ => false

def mentionsType : List Char → Bool
  | [] => false
  | char :: rest => startsWithType (char :: rest) || mentionsType rest

/-- Whether a document that is too deep passes for a key: it is an object or mentions the type. -/
def passesForKey (chars : List Char) : Bool :=
  (Json.skipBlanks chars).head? == some '\x7b' || mentionsType chars

/-- Rules for documents that may be keys.  The depth is how many values can lie inside one another
before reading gives up. -/
def rules : Json.Rules := ⟨985, 4300, false, true⟩

def isKey (text : String) : Bool :=
  match Json.readText rules text with
  | .ok document => hasType document
  | .error .tooDeep => passesForKey text.toList
  | .error .malformed => false

/-- Whether a byte string is a key document in some encoding. -/
def looksLikeKey (bytes : Bytes) : Bool := ((Encoding.decode bytes).map isKey).getD false

end SignedToken.KeyDocument
