/-!
# Targets of requests

What a request asks for is a path, possibly with a query and a fragment.  It may also be written as
an address, with a scheme or a host in front, of which only the path counts.
-/

namespace SignedToken.Http.Target

/-- Characters that do not count at the start. -/
def isLeading (char : Char) : Bool := char.toNat ≤ 32

/-- Characters that do not count anywhere. -/
def isIgnored (char : Char) : Bool := char == '\t' || char == '\n' || char == '\r'

def isSchemeChar (char : Char) : Bool :=
  char.isAlphanum || char == '+' || char == '-' || char == '.'

/-- What follows the scheme and its colon. -/
def afterScheme (chars : List Char) : List Char :=
  let scheme := chars.takeWhile (· != ':')
  match chars.drop scheme.length with
  | ':' :: rest =>
    if scheme.head?.any Char.isAlpha && scheme.all isSchemeChar then rest else chars
  | _ => chars

def endsHost (char : Char) : Bool := char == '/' || char == '?' || char == '#'

/-- What follows the two slashes and the host. -/
def afterHost : List Char → List Char
  | '/' :: '/' :: rest => rest.dropWhile (!endsHost ·)
  | chars => chars

def addressPath (chars : List Char) : List Char :=
  let counted := (chars.dropWhile isLeading).filter (!isIgnored ·)
  (afterHost (afterScheme counted)).takeWhile fun char => char != '?' && char != '#'

/-- The path of a target; the path of an address may itself look like an address. -/
def path (target : String) : List Char := addressPath (addressPath target.toList)

end SignedToken.Http.Target
