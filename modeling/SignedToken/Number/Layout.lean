import SignedToken.Number.Shortest

/-!
# Writing doubles

A double is written by its shortest decimal, either plainly with a point and at least one decimal
place, or with an exponent.  A layout says for which exponents of the leading digit the plain form
is used, how many digits an exponent has at least, and what is written for the numbers that are
not finite.
-/

namespace SignedToken

structure FloatLayout where
  leastPlain : Int
  firstScientific : Int
  exponentDigits : Nat
  nan : String
  infinity : String

namespace FloatLayout

/-- Text in front of which zeros are put until it has `width` characters. -/
def padZeros (width : Nat) (chars : List Char) : List Char :=
  List.replicate (width - chars.length) '0' ++ chars

/-- Digits with a point after the place of `10 ^ 0`, when the first stands for `10 ^ leading`. -/
def plain (digits : List Char) (leading : Int) : List Char :=
  match leading with
  | .ofNat power =>
    let whole := digits ++ List.replicate (power + 1 - digits.length) '0'
    let places := whole.drop (power + 1)
    whole.take (power + 1) ++ '.' :: (if places.isEmpty then ['0'] else places)
  | .negSucc power => '0' :: '.' :: List.replicate power '0' ++ digits

/-- One digit, a point if more follow, and the exponent with its sign. -/
def scientific (layout : FloatLayout) (digits : List Char) (leading : Int) : List Char :=
  let places := digits.drop 1
  let sign := if leading < 0 then '-' else '+'
  digits.take 1 ++ (if places.isEmpty then [] else '.' :: places) ++
    'e' :: sign :: padZeros layout.exponentDigits (Nat.toDigits 10 leading.natAbs)

def magnitude (layout : FloatLayout) (mantissa : Nat) (exponent : Int) : List Char :=
  if mantissa = 0 then ['0', '.', '0']
  else
    let decimal := (Shortest.shortest mantissa exponent).trim Shortest.mostDigits
    let digits := Nat.toDigits 10 decimal.digits
    let leading := decimal.exponent + (digits.length : Int) - 1
    if layout.leastPlain ≤ leading ∧ leading < layout.firstScientific then plain digits leading
    else layout.scientific digits leading

def render (layout : FloatLayout) : Binary64 → List Char
  | .nan => layout.nan.toList
  | .infinite negative => (if negative then ['-'] else []) ++ layout.infinity.toList
  | .finite negative mantissa exponent =>
    (if negative then ['-'] else []) ++ layout.magnitude mantissa exponent

def json : FloatLayout := ⟨-5, 16, 1, "NaN", "Infinity"⟩

/-- Numbers shown to people, and as keys of objects. -/
def shown : FloatLayout := ⟨-4, 16, 2, "nan", "inf"⟩

end FloatLayout

end SignedToken
