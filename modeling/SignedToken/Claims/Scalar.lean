import SignedToken.Claims.Issue
import SignedToken.Json.Basic
import SignedToken.Text.Blank

/-!
# Scalars that are taken for others

Where an integer, a number or a truth value is wanted, a document may also hold a scalar of another
kind that stands for one: a text that spells it, or a number or truth value that is equal to it.
-/

namespace SignedToken.Scalar

/-! ## Underscores -/

/-- Whether two underscores stand side by side. -/
def hasDoubleUnderscore : List Char → Bool
  | '_' :: '_' :: _ => true
  | [] => false
  | _ :: rest => hasDoubleUnderscore rest

/-- A numeral without its underscores.  There is at least one, each stands alone, and none is the
first or the last character. -/
def ungroup? (chars : List Char) : Option (List Char) :=
  if chars.contains '_' && chars.head? != some '_' && chars.getLast? != some '_' &&
      !hasDoubleUnderscore chars then
    some (chars.filter (· != '_'))
  else none

/-! ## Integers -/

inductive Numeral where
  | number (value : Int)
  | tooLong
  | malformed

def mostDigits : Nat := 4300

/-- A numeral that is a minus, if there is one, and digits without zeros in front.  Too many digits
are noticed before what follows them. -/
def plainNumeral (chars : List Char) : Numeral :=
  let negative := chars.head? == some '-'
  let unsigned := if negative then chars.drop 1 else chars
  let digits := unsigned.takeWhile Char.isDigit
  let leadingZero := digits.head? == some '0'
  if digits.isEmpty || (leadingZero && unsigned.length > 1) then .malformed
  else if digits.length > mostDigits then .tooLong
  else if digits.length < unsigned.length then .malformed
  else
    let size : Int := Nat.ofDigitChars 10 digits 0
    .number (if negative then -size else size)

/-- What follows the zeros and underscores in front of a numeral, the last of which is `last`.  A
minus may still come; a point keeps what stands before it, and so does the end. -/
def afterZeros (last : Char) : List Char → Option (List Char)
  | [] => some [last]
  | char :: rest =>
    if char == '0' || char == '_' then afterZeros char rest
    else if char == '.' then some (last :: char :: rest)
    else if char.isDigit || char == '-' then some (char :: rest)
    else none

def dropZeros : List Char → Option (List Char)
  | [] => none
  | char :: rest =>
    if char == '0' then afterZeros char rest
    else if char.isDigit || char == '-' then some (char :: rest)
    else none

/-- A numeral without a point and zeros at its end. -/
def dropPlaces (chars : List Char) : List Char :=
  let places := (chars.dropWhile (· != '.')).drop 1
  if !places.isEmpty && places.all (· == '0') then chars.takeWhile (· != '.') else chars

/-- A numeral without what may be left out: a plus, zeros in front, places that are zero and
underscores. -/
def simplify? (chars : List Char) : Option (List Char) := do
  let unsigned ←
    match chars with
    | '+' :: '-' :: _ => none
    | '+' :: rest => some rest
    | chars => some chars
  let numeral := dropPlaces (← dropZeros unsigned)
  some ((ungroup? numeral).getD numeral)

/-- The numeral in a text: as it stands, or else without what may be left out. -/
def numeral (text : String) : Numeral :=
  let chars := Blank.trim Blank.isWhiteSpace text.toList
  match plainNumeral chars with
  | .malformed => ((simplify? chars).map plainNumeral).getD .malformed
  | found => found

def parseInt (text : String) : Checked Int :=
  match numeral text with
  | .number value => .ok value
  | .tooLong => Checked.fail .integerTooLarge
  | .malformed => Checked.fail .integerUnreadable

/-- One more than the largest integer of 64 bits with a sign. -/
def wordBound : Int := 0x8000000000000000

def fitsWord (number : Int) : Bool := -wordBound ≤ number && number < wordBound

/-- Whether the value of a double counts as one of 64 bits; the least integer of 64 bits does not,
because a double cannot tell it from smaller ones. -/
def isWithinWord (number : Int) : Bool := -wordBound < number && number < wordBound

def intOfFloat (number : Binary64) : Checked Int :=
  match number with
  | .finite .. =>
    match number.toInt? with
    | none => Checked.fail .integerFraction
    | some whole => if isWithinWord whole then .ok whole else Checked.fail .integerTooLarge
  | _ => Checked.fail .notFinite

def toInt : Json → Checked Int
  | .int value => .ok value
  | .bool value => .ok (if value then 1 else 0)
  | .float value => intOfFloat value
  | .text value => parseInt value
  | _ => Checked.fail .notInteger

/-! ## Numbers -/

/-- The sign in front of a number: whether it is negative, and what follows. -/
def splitSign : List Char → Bool × List Char
  | '-' :: rest => (true, rest)
  | '+' :: rest => (false, rest)
  | rest => (false, rest)

/-- An exponent with its letter in front, or nothing. -/
def parseExponent : List Char → Option Int
  | [] => some 0
  | _ :: rest =>
    let (negative, digits) := splitSign rest
    let size : Int := Nat.ofDigitChars 10 digits 0
    if digits.isEmpty || !digits.all Char.isDigit then none
    else some (if negative then -size else size)

def isExponentLetter (char : Char) : Bool := char == 'e' || char == 'E'

/-- A number without its sign: digits before or after a point, or both, and an exponent. -/
def parseUnsigned (negative : Bool) (chars : List Char) : Option Binary64 := do
  let mantissa := chars.takeWhile (!isExponentLetter ·)
  let exponent ← parseExponent (chars.dropWhile (!isExponentLetter ·))
  let whole := mantissa.takeWhile (· != '.')
  let places := (mantissa.dropWhile (· != '.')).drop 1
  let digits := whole ++ places
  if digits.isEmpty || !digits.all Char.isDigit then none
  else
    some (Binary64.ofDecimal negative (Nat.ofDigitChars 10 digits 0) (exponent - places.length))

/-- A number as it is written, with nothing around it. -/
def plainNumber? (chars : List Char) : Option Binary64 :=
  let (negative, unsigned) := splitSign chars
  let lower := String.ofList (unsigned.map Char.toLower)
  if lower = "nan" then some .nan
  else if lower = "inf" || lower = "infinity" then some (.infinite negative)
  else parseUnsigned negative unsigned

/-- The number in a text.  There may be blanks around it or underscores in it, but not both. -/
def parseFloat (text : String) : Option Binary64 :=
  match plainNumber? (Blank.trim Blank.isWhiteSpace text.toList) with
  | some number => some number
  | none => ungroup? text.toList >>= plainNumber?

def toFloat : Json → Checked Binary64
  | .float value => .ok value
  | .int value => .ok (Binary64.ofInt value)
  | .bool value => .ok (Binary64.ofInt (if value then 1 else 0))
  | .text value =>
    match parseFloat value with
    | some number => .ok number
    | none => Checked.fail .numberUnreadable
  | _ => Checked.fail .notNumber

/-! ## Truth values -/

def falseWords : List String := ["0", "off", "f", "false", "n", "no"]

def trueWords : List String := ["1", "on", "t", "true", "y", "yes"]

def parseBool (text : String) : Checked Bool :=
  let word := String.ofList (text.toList.map Char.toLower)
  if falseWords.contains word then .ok false
  else if trueWords.contains word then .ok true
  else Checked.fail .truthUnreadable

/-- The truth value that an integer is equal to; no integer of more than 64 bits is asked. -/
def boolOfInt (number : Int) : Checked Bool :=
  if number = 0 then .ok false
  else if number = 1 then .ok true
  else if fitsWord number then Checked.fail .truthUnreadable
  else Checked.fail .notTruth

def boolOfFloat (number : Binary64) : Checked Bool :=
  match number.toInt? with
  | some whole => if isWithinWord whole then boolOfInt whole else Checked.fail .notTruth
  | none => Checked.fail .notTruth

def toBool : Json → Checked Bool
  | .bool value => .ok value
  | .int value => boolOfInt value
  | .float value => boolOfFloat value
  | .text value => parseBool value
  | _ => Checked.fail .notTruth

end SignedToken.Scalar
