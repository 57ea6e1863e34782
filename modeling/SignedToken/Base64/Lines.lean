import SignedToken.Base64.Basic

/-!
# Base64 in lines

Key files write base64 in the standard alphabet with padding, cut into lines of sixty-four
characters.  Reading takes lines of any length and ignores white space; the padding must fill the
last group of four and the bits that it stands for must be zero.
-/

namespace SignedToken.Base64.Lines

def lineWidth : Nat := 64

/-- The padding that fills up the last group of four symbols. -/
def padding (symbols : Nat) : List Char := List.replicate ((4 - symbols % 4) % 4) '='

/-- One line, padded. -/
def encode (bytes : Bytes) : List Char :=
  let symbols := (toSextets bytes).map Alphabet.standard.symbol
  symbols ++ padding symbols.length

/-- Ends every `width` characters, and the last line, by a line feed; the first line has `room`. -/
def breakLines (width : Nat) : (room : Nat) → List Char → List Char
  | _, [] => ['\n']
  | 0, char :: rest => '\n' :: char :: breakLines width (width - 1) rest
  | room + 1, char :: rest => char :: breakLines width room rest

def encodeLines (bytes : Bytes) : List Char :=
  breakLines lineWidth lineWidth (encode bytes)

/-- Reads characters without white space; what is read must be what its bytes are written as. -/
def decode (chars : List Char) : Option Bytes :=
  match (chars.takeWhile (· != '=')).mapM Alphabet.standard.digit? with
  | none => none
  | some digits =>
    if encode (ofSextets digits) = chars then some (ofSextets digits) else none

end SignedToken.Base64.Lines
