import SignedToken.Der.Basic
import SignedToken.Number.Power

/-!
# Reading elements

An element is read without a look into its content, so a reader takes apart only the elements that
it knows and leaves the others as they are.  What is not the one encoding of its meaning is
refused.
-/

namespace SignedToken.Der

/-- An element in a byte string. -/
structure Element where
  /-- The first byte of the tag; it is the whole tag, unless the tag has a long number. -/
  tag : Byte
  content : Bytes
  /-- The element as it is written, with its tag and its length. -/
  whole : Bytes
  deriving DecidableEq, Repr

/-! ## Numbers to base 128 -/

/-- A number to base 128 has at most this many digits. -/
def mostDigits : Nat := 4

/-- Splits off a number to base 128, whose digits but the last have their highest bit set.  Its
first digit is not zero, unless it is the only one. -/
def readNumber (bytes : Bytes) : Option (Nat × Bytes) :=
  let high := bytes.takeWhile (128 ≤ ·)
  match bytes.drop high.length with
  | [] => none
  | last :: rest =>
    if high.head? == some 128 || high.length ≥ mostDigits then none
    else
      let digits := high ++ [last]
      some (digits.foldl (fun number digit => number * 128 + digit.toNat % 128) 0, rest)

/-- Whether a byte string is numbers to base 128 one after the other; `fuel` bounds how many. -/
def isNumbers : (fuel : Nat) → Bytes → Bool
  | _, [] => true
  | 0, _ :: _ => false
  | fuel + 1, bytes =>
    match readNumber bytes with
    | some (_, rest) => isNumbers fuel rest
    | none => false

def longestIdentifier : Nat := 63

def isIdentifier (content : Bytes) : Bool :=
  !content.isEmpty && content.length ≤ longestIdentifier && isNumbers content.length content

/-! ## Elements -/

/-- The largest number that a tag of one byte can have, plus one. -/
def longNumbers : Nat := 31

/-- What follows the tag at the start of a byte string.  The number of a tag comes after the first
byte if the lower bits of that byte are all set; it is then too large for them. -/
def afterTag? : Bytes → Option Bytes
  | [] => none
  | first :: rest =>
    if first &&& 0x1F == 0x1F then
      match readNumber rest with
      | some (number, rest) => if number < longNumbers then none else some rest
      | none => none
    else some rest

def readLength : Bytes → Option (Nat × Bytes)
  | [] => none
  | first :: rest =>
    if first < 128 then some (first.toNat, rest)
    else
      let count := first.toNat - 128
      let digits := rest.take count
      let length := Bytes.toNat digits
      if encodeLength length = first :: digits then some (length, rest.drop count) else none

/-- The first element of a byte string, and what follows it. -/
def readElement (bytes : Bytes) : Option (Element × Bytes) := do
  let tag ← bytes.head?
  let (length, rest) ← afterTag? bytes >>= readLength
  if length ≤ rest.length then
    let size := bytes.length - rest.length + length
    some (⟨tag, rest.take length, bytes.take size⟩, rest.drop length)
  else none

/-- The elements in a byte string; `fuel` is spent on every element. -/
def readElements : (fuel : Nat) → Bytes → Option (List Element)
  | _, [] => some []
  | 0, _ :: _ => none
  | fuel + 1, bytes => do
    let (first, rest) ← readElement bytes
    let others ← readElements fuel rest
    some (first :: others)

def elements? (bytes : Bytes) : Option (List Element) := readElements bytes.length bytes

def element? (bytes : Bytes) : Option Element :=
  match elements? bytes with
  | some [element] => some element
  | _ => none

namespace Element

/-- The content of an element, if it has the wanted tag. -/
def contentOf? (wanted : Byte) (element : Element) : Option Bytes :=
  if element.tag = wanted then some element.content else none

def parts? (element : Element) : Option (List Element) :=
  element.contentOf? sequenceTag >>= elements?

def octets? (element : Element) : Option Bytes := element.contentOf? octetsTag

/-- The bytes of a string of bits, in the last of which up to seven bits may be unused and are then
zero. -/
def bits? (element : Element) : Option Bytes := do
  match ← element.contentOf? bitsTag with
  | [] => none
  | unused :: content =>
    let last := (content.getLast?.getD 0).toNat
    let unusedAreZero := last % Power.ofTwo unused.toNat = 0
    if unused < 8 ∧ (content.isEmpty → unused = 0) ∧ unusedAreZero then some content
    else none

def identifier? (element : Element) : Option Bytes :=
  (element.contentOf? identifierTag).filter isIdentifier

def isNull (element : Element) : Bool := element.tag == nullTag && element.content.isEmpty

/-- A number that is not negative and has no zero in front that it could do without. -/
def natural? (element : Element) : Option Nat := do
  match ← element.contentOf? integerTag with
  | [] => none
  | [only] => if only < 128 then some only.toNat else none
  | first :: second :: rest =>
    if first < 128 ∧ (first ≠ 0 ∨ 128 ≤ second) then some (Bytes.toNat (first :: second :: rest))
    else none

/-- The element that a numbered element holds. -/
def context? (number : Nat) (element : Element) : Option Element :=
  element.contentOf? (contextTag number) >>= element?

/-- Whether no byte string comes before its predecessor. -/
def isSorted : List Bytes → Bool
  | first :: second :: rest => !decide (second < first) && isSorted (second :: rest)
  | _ => true

/-- The elements of a set, which are written in the order of their bytes; the tag may be one that
stands for the set. -/
def setOf? (wanted : Byte) (element : Element) : Option (List Element) :=
  (element.contentOf? wanted >>= elements?).filter fun items => isSorted (items.map Element.whole)

end Element

def sequence? (bytes : Bytes) : Option (List Element) := element? bytes >>= Element.parts?

/-- The numbers of a sequence that holds nothing else. -/
def naturals? (bytes : Bytes) : Option (List Nat) :=
  sequence? bytes >>= fun parts => parts.mapM Element.natural?

end SignedToken.Der
