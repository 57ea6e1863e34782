import SignedToken.Http.Request

/-!
# Cookies

A cookie field is a list of pairs with semicolons between them.  A value in double quotes may hold
semicolons and blanks, and there a backslash stands before a character that means itself or before
three octal digits.  Any other value ends at a blank or a quote, and if the pair does not end there
too it is no pair; it is skipped up to the next semicolon.
-/

namespace SignedToken.Http.Cookie

def isBlank (char : Char) : Bool :=
  char == ' ' || ('\t'.toNat ≤ char.toNat && char.toNat ≤ '\r'.toNat)

def isQuote (char : Char) : Bool := char == '"'

/-- The inside of a quoted value, as it is written, and what follows the closing quote. -/
def quoted : List Char → Option (List Char × List Char)
  | [] => none
  | '"' :: rest => some ([], rest)
  | '\\' :: char :: rest =>
    (quoted rest).map fun (inside, after) => ('\\' :: char :: inside, after)
  | char :: rest =>
    if char = '\\' then none else (quoted rest).map fun (inside, after) => (char :: inside, after)

def isOctal (char : Char) : Bool := '0' ≤ char && char ≤ '7'

def unescape : List Char → Bytes
  | '\\' :: a :: b :: c :: rest =>
    if '0' ≤ a && a ≤ '3' && isOctal b && isOctal c then
      UInt8.ofNat ((a.toNat - 48) * 64 + (b.toNat - 48) * 8 + (c.toNat - 48)) :: unescape rest
    else Utf8.encode (String.ofList [a]) ++ unescape (b :: c :: rest)
  | '\\' :: char :: rest => Utf8.encode (String.ofList [char]) ++ unescape rest
  | char :: rest => Utf8.encode (String.ofList [char]) ++ unescape rest
  | [] => []

/-- A value after its equals sign, and what follows it. -/
def readValue (chars : List Char) : Option (String × List Char) :=
  match chars.dropWhile isBlank with
  | '"' :: rest =>
    (quoted rest).map fun (inside, after) => (Utf8.decodeLenient (unescape inside), after)
  | start =>
    let inValue (char : Char) : Bool := !isBlank char && !isQuote char && char != ';'
    some (String.ofList (start.takeWhile inValue), start.dropWhile inValue)

/-- What follows a pair that ends here, after blanks: the end, or a semicolon. -/
def afterPair? (chars : List Char) : Option (List Char) :=
  match chars.dropWhile isBlank with
  | [] => some []
  | ';' :: rest => some rest
  | _ => none

/-- The next pair, if there is one in front of the next semicolon, and what follows. -/
def readPair (chars : List Char) : Option (String × String) × List Char :=
  let nameEnds (char : Char) : Bool := char == '=' || char == ';'
  let name := String.ofList (Blank.trim isBlank (chars.takeWhile (!nameEnds ·)))
  match chars.dropWhile (!nameEnds ·) with
  | '=' :: rest =>
    let skipped := (none, (rest.dropWhile (· != ';')).drop 1)
    match readValue rest with
    | none => skipped
    | some (value, after) =>
      match afterPair? after with
      | some following => (some (name, value), following)
      | none => skipped
  | rest => (some (name, ""), rest.drop 1)

/-- The pairs of a cookie field in their order; `fuel` bounds their number. -/
def readPairs : (fuel : Nat) → List Char → List (String × String)
  | 0, _ => []
  | fuel + 1, chars =>
    if chars.isEmpty then []
    else
      match readPair chars with
      | (some pair, rest) => pair :: readPairs fuel rest
      | (none, rest) => readPairs fuel rest

/-- The value of the first cookie with a name. -/
def find? (request : Request) (name : String) : Option String := do
  let field ← request.field? "Cookie"
  let chars := field.toList
  let (_, value) ← (readPairs chars.length chars).find? fun pair => pair.1 == name && !name.isEmpty
  some value

end SignedToken.Http.Cookie
