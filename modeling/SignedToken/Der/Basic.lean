import SignedToken.Bytes

/-!
# Distinguished encoding of trees

Key files hold trees of tagged elements.  An element is a tag, the length of its content and the
content, which is bytes or, if the tag says so, further elements.  Each tree has one encoding:
lengths and integers are written with as few bytes as possible.
-/

namespace SignedToken

inductive Der where
  | primitive (tag : Byte) (content : Bytes)
  | constructed (tag : Byte) (parts : List Der)

namespace Der

def integerTag : Byte := 0x02
def bitsTag : Byte := 0x03
def octetsTag : Byte := 0x04
def nullTag : Byte := 0x05
def identifierTag : Byte := 0x06
def sequenceTag : Byte := 0x30
def setTag : Byte := 0x31

/-- The tag of the element with a number that stands for what it holds. -/
def contextTag (number : Nat) : Byte := UInt8.ofNat (0xA0 + number)

/-! ## Writing -/

def encodeLength (length : Nat) : Bytes :=
  if length < 128 then [UInt8.ofNat length]
  else
    let digits := Bytes.minimal length
    UInt8.ofNat (128 + digits.length) :: digits

def encodeElement (tag : Byte) (content : Bytes) : Bytes :=
  tag :: encodeLength content.length ++ content

mutual

def encode : Der → Bytes
  | .primitive tag content => encodeElement tag content
  | .constructed tag parts => encodeElement tag (encodeAll parts)

def encodeAll : List Der → Bytes
  | [] => []
  | part :: rest => encode part ++ encodeAll rest

end

/-! ## Kinds of element -/

def sequence (parts : List Der) : Der := .constructed sequenceTag parts

def octets (content : Bytes) : Der := .primitive octetsTag content

/-- A byte string as bits, none of them unused. -/
def bits (content : Bytes) : Der := .primitive bitsTag (0 :: content)

def null : Der := .primitive nullTag []

/-- An identifier by its encoded content. -/
def identifier (content : Bytes) : Der := .primitive identifierTag content

def context (number : Nat) (part : Der) : Der := .constructed (contextTag number) [part]

/-- A number with a zero in front if its first bit would be taken for a sign. -/
def integer (number : Nat) : Der :=
  let digits := Bytes.minimal number
  match digits with
  | [] => .primitive integerTag [0]
  | first :: _ => .primitive integerTag (if first < 128 then digits else 0 :: digits)

end Der

end SignedToken
