import SignedToken.Text.Basic
import SignedToken.Text.Hex
import SignedToken.Text.Printable

/-!
# Quoted text

A quoted text stands between two equal quotes: apostrophes, or double quotes if the text holds an
apostrophe and no double quote.  The quote and the backslash are escaped by a backslash, line feed,
carriage return and tab have letters, and every other character that is not printable is written
by its number.
-/

namespace SignedToken.Quoted

/-- The escape of a character by its number: two, four or eight digits, whichever fit first. -/
def numbered (number : Nat) : List Char :=
  if number < 0x100 then '\\' :: 'x' :: Hex.digits 2 number
  else if number < 0x10000 then '\\' :: 'u' :: Hex.digits 4 number
  else '\\' :: 'U' :: Hex.digits 8 number

def quoteFor (chars : List Char) : Char :=
  if chars.contains '\'' && !chars.contains '"' then '"' else '\''

/-- A character between two `mark`s. -/
def escape (mark char : Char) : List Char :=
  if char = mark ∨ char = '\\' then ['\\', char]
  else if char = '\n' then ['\\', 'n']
  else if char = '\r' then ['\\', 'r']
  else if char = '\t' then ['\\', 't']
  else if Printable.isPrintable char then [char]
  else numbered char.toNat

/-- A code point between two `mark`s; a lone surrogate is not printable. -/
def escapePoint (mark : Char) : CodePoint → List Char
  | .char value => escape mark value
  | .surrogate index => numbered (CodePoint.surrogate index).number

def text (content : Text) : String :=
  let mark := quoteFor content.chars
  String.ofList (mark :: content.toList.flatMap (escapePoint mark) ++ [mark])

/-- A byte between two `mark`s: ASCII characters that print stand for themselves. -/
def escapeByte (mark : Char) (byte : Byte) : List Char :=
  if byte < 127 then escape mark (Char.ofNat byte.toNat) else numbered byte.toNat

/-- A quoted byte string, without the letter in front. -/
def bytes (content : Bytes) : String :=
  let mark := quoteFor (content.map fun byte => Char.ofNat byte.toNat)
  String.ofList (mark :: content.flatMap (escapeByte mark) ++ [mark])

end SignedToken.Quoted
