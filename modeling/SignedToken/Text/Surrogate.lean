/-!
# Surrogates

Numbers of sixteen bits from U+D800 to U+DFFF are no characters: a high one and a low one together
stand for a character past U+FFFF.  Where one of them may stand alone, one of the last private
characters is put in its place, so that texts remain texts and different surrogates stay different.
-/

namespace SignedToken.Surrogate

def first : Nat := 0xD800

def isHigh (number : Nat) : Bool := 0xD800 ≤ number && number < 0xDC00

def isLow (number : Nat) : Bool := 0xDC00 ≤ number && number < 0xE000

def isEither (number : Nat) : Bool := isHigh number || isLow number

/-- The character of a high surrogate and a low one. -/
def join (high low : Nat) : Char := Char.ofNat (0x10000 + (high - 0xD800) * 0x400 + (low - 0xDC00))

/-- The private character that is put in the place of a surrogate. -/
def standIn (number : Nat) : Char := Char.ofNat (0x10F800 + (number - first))

/-- The character of a number that may also be a surrogate. -/
def toChar (number : Nat) : Char :=
  if isEither number then standIn number else Char.ofNat number

/-- The characters of numbers of sixteen bits; two surrogates together make one character. -/
def joinAll : List Nat → List Char
  | [] => []
  | [number] => [toChar number]
  | high :: low :: rest =>
    if isHigh high && isLow low then join high low :: joinAll rest
    else toChar high :: joinAll (low :: rest)

end SignedToken.Surrogate
