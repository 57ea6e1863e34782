import SignedToken.Text.Basic

/-!
# Blanks

Two sets of blank characters: white space, as the character standard has it, and the wider set of
blanks, which also counts the four information separators below the space.  Both leave zero-width
characters out.
-/

namespace SignedToken.Blank

/-- White space of the character standard. -/
def isWhiteSpace (char : Char) : Bool :=
  let number := char.toNat
  (9 ≤ number && number ≤ 13) || number == 32 || number == 0x85 || number == 0xA0 ||
    number == 0x1680 || (0x2000 ≤ number && number ≤ 0x200A) || number == 0x2028 ||
    number == 0x2029 || number == 0x202F || number == 0x205F || number == 0x3000

/-- White space and the information separators U+001C to U+001F. -/
def isBlank (char : Char) : Bool :=
  isWhiteSpace char || (0x1C ≤ char.toNat && char.toNat ≤ 0x1F)

/-- Whether a code point is a blank; a lone surrogate is none. -/
def isBlankPoint (point : CodePoint) : Bool := point.char?.any isBlank

/-- Drops the items of a class from both ends. -/
def trim {α : Type} (inClass : α → Bool) (items : List α) : List α :=
  ((items.dropWhile inClass).reverse.dropWhile inClass).reverse

end SignedToken.Blank
