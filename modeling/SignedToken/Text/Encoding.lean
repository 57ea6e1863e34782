import SignedToken.Text.Surrogate
import SignedToken.Text.Utf8

/-!
# Encodings of documents

A document begins with an ASCII character, so the zero bytes at its start tell how its characters
are encoded, if no mark in front of it does.  Surrogates may stand alone in all encodings.
-/

namespace SignedToken

inductive Encoding where
  | utf8
  | utf16 (littleEndian : Bool)
  | utf32 (littleEndian : Bool)
  deriving DecidableEq, Repr

namespace Encoding

/-- Marks in front of a text.  The longer ones come first, because one of them starts with
another. -/
def marks : List (Bytes × Encoding) :=
  [([0x00, 0x00, 0xFE, 0xFF], .utf32 false), ([0xFF, 0xFE, 0x00, 0x00], .utf32 true),
    ([0xFE, 0xFF], .utf16 false), ([0xFF, 0xFE], .utf16 true), ([0xEF, 0xBB, 0xBF], .utf8)]

/-- The encoding by which of the first bytes are zero. -/
def ofZeros : Bytes → Encoding
  | [first, second] =>
    if first = 0 then .utf16 false
    else if second = 0 then .utf16 true
    else .utf8
  | first :: second :: third :: fourth :: _ =>
    if first = 0 then (if second = 0 then .utf32 false else .utf16 false)
    else if second = 0 then
      (if third = 0 && fourth = 0 then .utf32 true else .utf16 true)
    else .utf8
  | _ => .utf8

/-- The encoding of a document, and the document without its mark. -/
def detect (bytes : Bytes) : Encoding × Bytes :=
  match marks.find? (·.1.isPrefixOf bytes) with
  | some (mark, encoding) => (encoding, bytes.drop mark.length)
  | none => (ofZeros bytes, bytes)

/-- The number of some bytes in the order of an encoding. -/
def number (littleEndian : Bool) (bytes : Bytes) : Nat :=
  Bytes.toNat (if littleEndian then bytes.reverse else bytes)

/-- Numbers of two bytes each, none of which may be left over. -/
def pairs (littleEndian : Bool) : Bytes → Option (List Nat)
  | [] => some []
  | first :: second :: rest =>
    (pairs littleEndian rest).map (number littleEndian [first, second] :: ·)
  | _ => none

def quads (littleEndian : Bool) : Bytes → Option (List Nat)
  | [] => some []
  | first :: second :: third :: fourth :: rest =>
    (quads littleEndian rest).map (number littleEndian [first, second, third, fourth] :: ·)
  | _ => none

def greatestCharacter : Nat := 0x10FFFF

/-- Bytes in which surrogates of three bytes each are replaced by the characters that stand in for
them. -/
def replaceSurrogates : Bytes → Bytes
  | first :: second :: third :: rest =>
    if first = 0xED && 0xA0 ≤ second && second ≤ 0xBF && Utf8.isContinuation third then
      let surrogate := 0xD000 + (second.toNat - 0x80) * 0x40 + (third.toNat - 0x80)
      Utf8.encode (String.ofList [Surrogate.standIn surrogate]) ++ replaceSurrogates rest
    else first :: replaceSurrogates (second :: third :: rest)
  | bytes => bytes

def decodeAs (bytes : Bytes) : Encoding → Option String
  | .utf8 => Utf8.decode (replaceSurrogates bytes)
  | .utf16 littleEndian =>
    (pairs littleEndian bytes).map fun units => String.ofList (Surrogate.joinAll units)
  | .utf32 littleEndian => do
    let numbers ← quads littleEndian bytes
    if numbers.all (· ≤ greatestCharacter) then
      some (String.ofList (numbers.map Surrogate.toChar))
    else none

def decode (bytes : Bytes) : Option String :=
  let (encoding, rest) := detect bytes
  decodeAs rest encoding

end Encoding

end SignedToken
