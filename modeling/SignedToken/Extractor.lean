import SignedToken.Http.Cookie
import SignedToken.Trace

/-!
# Finding the token of a request

A token comes in a field after the name of a scheme, or in a cookie.  An application may also supply
an extractor of its own, which returns what it likes, or refuses the request, or breaks.  Where a
truth value is wanted of such an extractor, it may stand for falsehood.
-/

namespace SignedToken

inductive Extractor where
  | bearer (field scheme : String)
  | cookie (name : String)
  | supplied (reply : Except Failure Value) (truth : Bool)

namespace Extractor

def defaultField : String := "Authorization"

def defaultScheme : String := "Bearer"

def defaultCookie : String := "access_token"

def isBlankText (text : String) : Bool := text.toList.all Blank.isBlank

/-- An extractor for a field and a scheme, neither of which is blank. -/
def makeBearer (field scheme : String) : Except Failure Extractor :=
  if isBlankText field || isBlankText scheme then .error .blankScheme
  else .ok (.bearer field scheme)

/-- An extractor for a cookie whose name is not blank. -/
def makeCookie (name : String) : Except Failure Extractor :=
  if isBlankText name then .error .blankCookieName else .ok (.cookie name)

def name : Extractor → String
  | .bearer .. => "BearerExtractor"
  | .cookie _ => "CookieExtractor"
  | .supplied .. => "Custom"

/-- What an extractor stands for where a truth value is wanted. -/
def truth : Extractor → Bool
  | .supplied _ truth => truth
  | _ => true

/-- The lower case of a letter, where it matters for a letter with a code below U+0100: some letters
with greater codes have their lower case there. -/
def lowerChar (char : Char) : Char :=
  let number := char.toNat
  if 0xC0 ≤ number && number ≤ 0xDE && number != 0xD7 then Char.ofNat (number + 32)
  else if number == 0x178 then 'ÿ'
  else if number == 0x1E9E then 'ß'
  else if number == 0x212A then 'k'
  else if number == 0x212B then 'å'
  else char.toLower

def lower (text : List Char) : List Char := text.map lowerChar

/-- The token after the scheme, which is told apart neither by case nor by the blanks around it. -/
def extractBearer (field scheme : String) (request : Http.Request) : Traced String :=
  let value := Blank.trim Blank.isBlank ((request.field? field).getD "").toList
  if value.isEmpty then .fail (.refused (.missing ("Missing " ++ field ++ " header")))
  else if lower (value.takeWhile (· != ' ')) ≠ lower scheme.toList then do
    Traced.remark (.unexpectedScheme field)
    Traced.fail
      (.refused (.missing ("Invalid authorization scheme (expected '" ++ scheme ++ "')")))
  else
    let token := Blank.trim Blank.isBlank ((value.dropWhile (· != ' ')).drop 1)
    if token.isEmpty then .fail (.refused (.missing (scheme ++ " token is empty")))
    else pure (String.ofList token)

/-- The value of a cookie, which must not be empty. -/
def extractCookie (name : String) (request : Http.Request) : Traced String :=
  let value := (Http.Cookie.find? request name).getD ""
  if value.isEmpty then .fail (.refused (.missing ("Missing cookie '" ++ name ++ "'")))
  else pure value

def extract (request : Http.Request) : Extractor → Traced Value
  | .bearer field scheme => do return .text (← extractBearer field scheme request)
  | .cookie name => do return .text (← extractCookie name request)
  | .supplied reply _ => .ofExcept reply

end Extractor

end SignedToken
