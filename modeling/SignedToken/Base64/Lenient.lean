import SignedToken.Base64.Lines
import SignedToken.Base64.Url

/-!
# Lenient base64

A lenient reader passes over characters that are no symbols.  Symbols come in groups of four, and
padding stands for the missing symbols of a group; only a text that ends inside a group cannot be
read.  A strict reader is built around a lenient one in stages: it looks at the characters and at
the length of a text, has it read with the padding that it lacks, and compares it with what the
bytes that were read are written as.
-/

namespace SignedToken.Base64

namespace Lenient

inductive Failure where
  /-- One symbol of the group is there, which holds no octet. -/
  | loneSymbol (symbols : Nat)
  | missingPadding
  deriving DecidableEq, Repr

def Failure.message : Failure → String
  | .loneSymbol symbols =>
    "Invalid base64-encoded string: number of data characters (" ++ toString symbols ++
      ") cannot be 1 more than a multiple of 4"
  | .missingPadding => "Incorrect padding"

/-- The symbols of a text up to the padding that fills a group, after `digits` and, within a group
of two or more, `pads` of its padding.  Padding that comes earlier is passed over. -/
def scan (alphabet : Alphabet) :
    (digits : List Sextet) → (pads : Nat) → List Char → Except Failure (List Sextet)
  | digits, _, [] =>
    match digits.length % 4 with
    | 0 => .ok digits
    | 1 => .error (.loneSymbol digits.length)
    | _ => .error .missingPadding
  | digits, pads, char :: rest =>
    if char = '=' then
      let place := digits.length % 4
      if place < 2 then scan alphabet digits pads rest
      else if place + pads + 1 < 4 then scan alphabet digits (pads + 1) rest
      else .ok digits
    else
      match alphabet.digit? char with
      | some digit => scan alphabet (digits ++ [digit]) 0 rest
      | none => scan alphabet digits pads rest

/-- The symbol of the standard alphabet in the place of one of the url alphabet. -/
def toStandard (char : Char) : Char :=
  if char = Alphabet.url.sixtyTwo then Alphabet.standard.sixtyTwo
  else if char = Alphabet.url.sixtyThree then Alphabet.standard.sixtyThree
  else char

/-- Reads an ASCII text in either alphabet, with padding that makes its length a multiple of
four. -/
def decode (chars : List Char) : Except Failure Bytes :=
  let padded := chars ++ Lines.padding chars.length
  (scan .standard [] 0 (padded.map toStandard)).map ofSextets

end Lenient

namespace Url

/-- A strict reader refuses a text by itself, or because the lenient one inside it does. -/
inductive StageFailure where
  | refused (failure : Failure)
  | unread (failure : Lenient.Failure)

def StageFailure.message : StageFailure → String
  | .refused failure => failure.message
  | .unread failure => "invalid base64: " ++ failure.message

def decodeInStages (text : Text) : Except StageFailure Bytes :=
  if text.toList.all fun point => (digit? point).isSome then
    if text.length % 4 = 1 then .error (.refused .invalidLength)
    else
      match Lenient.decode text.chars with
      | .error failure => .error (.unread failure)
      | .ok bytes => if encode bytes = text then .ok bytes else .error (.refused .nonCanonical)
  else .error (.refused .unexpectedCharacter)

end Url

end SignedToken.Base64
