import SignedToken.Der.Reader

/-!
# Parameters of random padding

A key that is meant for signatures with random padding may say how they are padded: the digest
function, the function that stretches digests, the length of the salt and the last byte.  Each of
the four has a usual value, which is never written.
-/

namespace SignedToken.Key.Padding

/-- What the identifiers of digest functions of the second and third generation start with. -/
def digestStart : Bytes := [0x60, 0x86, 0x48, 0x01, 0x65, 0x03, 0x04, 0x02]

def usualDigest : Bytes := [0x2b, 0x0e, 0x03, 0x02, 0x1a]

/-- The identifier of the function that stretches digests if none is named. -/
def usualStretching : Bytes := [0x2a, 0x86, 0x48, 0x86, 0xf7, 0x0d, 0x01, 0x01, 0x08]

def isDigest (identifier : Bytes) : Bool :=
  identifier == usualDigest || digestStart.isPrefixOf identifier

/-- Whether an element names a function: an identifier and possibly a parameter, which digest
functions do not have. -/
def namesFunction (element : Der.Element) : Bool :=
  match element.parts? with
  | some [name] => name.identifier?.isSome
  | some [name, parameter] =>
    match name.identifier? with
    | some identifier => parameter.isNull || !isDigest identifier
    | none => false
  | _ => false

/-- Whether an element names a function that has another function as its parameter. -/
def namesStretching (element : Der.Element) : Bool :=
  match element.parts? with
  | some [name, function] => name.identifier?.isSome && namesFunction function
  | _ => false

def usualDigestElement : Der := .sequence [.identifier usualDigest, .null]

def usualStretchingElement : Der := .sequence [.identifier usualStretching, usualDigestElement]

/-- Whether an element is a number of so many bytes at most, other than the usual one. -/
def isNumber (size usual : Nat) (element : Der.Element) : Bool :=
  match element.natural? with
  | some number => Bytes.bitLength number ≤ 8 * size && number != usual
  | none => false

/-- The four parameters in their order: what each may be. -/
def parameters : List (Nat × (Der.Element → Bool)) :=
  [(0, fun element => namesFunction element && element.whole != usualDigestElement.encode),
    (1, fun element => namesStretching element && element.whole != usualStretchingElement.encode),
    (2, isNumber 2 20), (3, isNumber 1 1)]

/-- Whether elements are some of the parameters in their order. -/
def areSome : List (Nat × (Der.Element → Bool)) → List Der.Element → Bool
  | _, [] => true
  | [], _ :: _ => false
  | (number, isSound) :: others, element :: rest =>
    if element.tag = Der.contextTag number then
      ((element.context? number).map isSound).getD false && areSome others rest
    else areSome others (element :: rest)

def isParameters (element : Der.Element) : Bool :=
  match element.parts? with
  | some parts => areSome parameters parts
  | none => false

end SignedToken.Key.Padding
