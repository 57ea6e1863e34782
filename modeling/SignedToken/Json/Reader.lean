import SignedToken.Json.Basic
import SignedToken.Text.Hex
import SignedToken.Text.Surrogate
import SignedToken.Text.Utf8

/-!
# Reading JSON

The reader is strict: no comments, no trailing commas, no leading zeros and no raw control
characters.  Three names of numbers that are not finite are read besides.  Two limits hold: a number
has a largest number of digits, and an array or object inside `depth` others must be empty.  A text
is read from its start on, so the first of several faults is the one that is found.
-/

namespace SignedToken.Json

inductive Fault where
  | malformed
  | tooDeep
  deriving DecidableEq, Repr

structure Rules where
  depth : Nat
  digits : Nat
  /-- Whether the digits of a number are limited also if a fraction or an exponent follows them. -/
  limitsDoubles : Bool
  /-- Whether a surrogate escape may stand alone. -/
  loneSurrogates : Bool

def Rules.segment : Rules := ⟨200, 4300, true, false⟩

/-- Rules with limits that no text of the given length reaches. -/
def Rules.loose (length : Nat) : Rules := ⟨length, length, false, false⟩

/-- What has been read, and the text after it. -/
abbrev Reading (α : Type) := Except Fault (α × List Char)

def malformed {α : Type} : Reading α := .error .malformed

/-- What a part that may be absent or malformed reads as. -/
def Reading.ofOption {α : Type} : Option (α × List Char) → Reading α
  | some found => .ok found
  | none => malformed

def isBlank (char : Char) : Bool := char == ' ' || char == '\n' || char == '\r' || char == '\t'

def skipBlanks (chars : List Char) : List Char := chars.dropWhile isBlank

/-! ## Text -/

/-- A character of a text as it is written: itself, or a number of sixteen bits. -/
inductive Piece where
  | char (value : Char)
  | unit (number : Nat)

/-- The character that a letter after a backslash stands for. -/
def letter? : Char → Option Char
  | '"' => some '"'
  | '\\' => some '\\'
  | '/' => some '/'
  | 'b' => some '\x08'
  | 'f' => some '\x0c'
  | 'n' => some '\n'
  | 'r' => some '\r'
  | 't' => some '\t'
  | _ => none

/-- The pieces up to the closing quote, and what follows it. -/
def scanPieces : List Char → Option (List Piece × List Char)
  | [] => none
  | '"' :: rest => some ([], rest)
  | '\\' :: 'u' :: a :: b :: c :: d :: rest => do
    let number ← Hex.four? a b c d
    let (pieces, rest) ← scanPieces rest
    some (.unit number :: pieces, rest)
  | '\\' :: escaped :: rest => do
    let char ← letter? escaped
    let (pieces, rest) ← scanPieces rest
    some (.char char :: pieces, rest)
  | char :: rest =>
    if char.toNat < 0x20 then none
    else do
      let (pieces, rest) ← scanPieces rest
      some (.char char :: pieces, rest)

/-- The character of a number of sixteen bits, which is no surrogate unless one may stand alone. -/
def unitChar? (lone : Bool) (number : Nat) : Option Char :=
  if Surrogate.isEither number && !lone then none else some (Surrogate.toChar number)

/-- The characters of the pieces; two surrogates together make one character. -/
def joinPieces (lone : Bool) : List Piece → Option (List Char)
  | [] => some []
  | .char value :: rest => (joinPieces lone rest).map (value :: ·)
  | .unit high :: .unit low :: rest =>
    if Surrogate.isHigh high && Surrogate.isLow low then
      (joinPieces lone rest).map (Surrogate.join high low :: ·)
    else do
      let char ← unitChar? lone high
      (joinPieces lone (.unit low :: rest)).map (char :: ·)
  | .unit number :: rest => do
    let char ← unitChar? lone number
    (joinPieces lone rest).map (char :: ·)

/-- A text whose opening quote is already read. -/
def scanText (rules : Rules) (chars : List Char) : Option (String × List Char) := do
  let (pieces, rest) ← scanPieces chars
  let content ← joinPieces rules.loneSurrogates pieces
  some (String.ofList content, rest)

/-! ## Numbers and names -/

def scanFraction : List Char → Option (Option (List Char) × List Char)
  | '.' :: rest =>
    let digits := rest.takeWhile Char.isDigit
    if digits.isEmpty then none else some (some digits, rest.dropWhile Char.isDigit)
  | chars => some (none, chars)

def scanExponent : List Char → Option (Option Int × List Char)
  | [] => some (none, [])
  | char :: rest =>
    if char = 'e' ∨ char = 'E' then
      let (negative, rest) :=
        match rest with
        | '-' :: rest => (true, rest)
        | '+' :: rest => (false, rest)
        | rest => (false, rest)
      let digits := rest.takeWhile Char.isDigit
      let size : Int := Nat.ofDigitChars 10 digits 0
      if digits.isEmpty then none
      else some (some (if negative then -size else size), rest.dropWhile Char.isDigit)
    else some (none, char :: rest)

/-- A number without its sign.  It is a double if it has a fraction or an exponent. -/
def scanUnsigned (rules : Rules) (negative : Bool) (chars : List Char) :
    Option (Json × List Char) := do
  let whole := chars.takeWhile Char.isDigit
  if whole.isEmpty || (whole.length > 1 && whole.head? == some '0') then none
  else
    let (fraction, rest) ← scanFraction (chars.dropWhile Char.isDigit)
    let (exponent, rest) ← scanExponent rest
    let isInteger := fraction.isNone && exponent.isNone
    if whole.length > rules.digits && (isInteger || rules.limitsDoubles) then none
    else if isInteger then
      let size : Int := Nat.ofDigitChars 10 whole 0
      some (.int (if negative then -size else size), rest)
    else
      let places := fraction.getD []
      let digits := Nat.ofDigitChars 10 (whole ++ places) 0
      some (.float (Binary64.ofDecimal negative digits (exponent.getD 0 - places.length)), rest)

def scanNumber (rules : Rules) : List Char → Option (Json × List Char)
  | '-' :: rest => scanUnsigned rules true rest
  | chars => scanUnsigned rules false chars

/-- The values that have a name. -/
def names : List (List Char × Json) :=
  [("null".toList, .null), ("true".toList, .bool true), ("false".toList, .bool false),
    ("NaN".toList, .float .nan), ("Infinity".toList, .float (.infinite false)),
    ("-Infinity".toList, .float (.infinite true))]

def scanScalar (rules : Rules) (chars : List Char) : Option (Json × List Char) :=
  match names.find? fun entry => entry.1.isPrefixOf chars with
  | some (name, value) => some (value, chars.drop name.length)
  | none => scanNumber rules chars

/-! ## Values -/

/-- The name of a member with its colon, and what follows. -/
def readName (rules : Rules) (chars : List Char) : Reading String :=
  match skipBlanks chars with
  | '"' :: rest =>
    match scanText rules rest with
    | some (name, rest) =>
      match skipBlanks rest with
      | ':' :: rest => .ok (name, rest)
      | _ => malformed
    | none => malformed
  | _ => malformed

mutual

/-- One value and the text after it.  A container that is not empty uses up one level of `depth`;
`fuel` is spent on every value, item and member. -/
def readValue (rules : Rules) : (fuel depth : Nat) → List Char → Reading Json
  | 0, _, _ => malformed
  | fuel + 1, depth, chars =>
    match skipBlanks chars with
    | '[' :: rest =>
      match skipBlanks rest, depth with
      | ']' :: rest, _ => .ok (.array [], rest)
      | _, 0 => .error .tooDeep
      | rest, depth + 1 =>
        (readItems rules fuel depth rest).map fun (items, rest) => (.array items, rest)
    | '\x7b' :: rest =>
      match skipBlanks rest, depth with
      | '\x7d' :: rest, _ => .ok (.object [], rest)
      | _, 0 => .error .tooDeep
      | rest, depth + 1 =>
        (readMembers rules fuel depth rest).map fun (members, rest) => (.object members, rest)
    | '"' :: rest =>
      Reading.ofOption ((scanText rules rest).map fun (content, rest) => (.text content, rest))
    | rest => Reading.ofOption (scanScalar rules rest)

def readItems (rules : Rules) :
    (fuel depth : Nat) → List Char → Except Fault (List Json × List Char)
  | 0, _, _ => malformed
  | fuel + 1, depth, chars => do
    let (item, rest) ← readValue rules fuel depth chars
    match skipBlanks rest with
    | ',' :: rest =>
      (readItems rules fuel depth rest).map fun (items, rest) => (item :: items, rest)
    | ']' :: rest => .ok ([item], rest)
    | _ => malformed

def readMembers (rules : Rules) :
    (fuel depth : Nat) → List Char → Except Fault (List (String × Json) × List Char)
  | 0, _, _ => malformed
  | fuel + 1, depth, chars => do
    let (name, rest) ← readName rules chars
    let (value, rest) ← readValue rules fuel depth rest
    match skipBlanks rest with
    | ',' :: rest =>
      (readMembers rules fuel depth rest).map fun (members, rest) =>
        ((name, value) :: members, rest)
    | '\x7d' :: rest => .ok ([(name, value)], rest)
    | _ => malformed

end

/-- Twice the length of a text, and a little more, is fuel enough to read it. -/
def fuelFor (chars : List Char) : Nat := 2 * chars.length + 2

/-- The document that a text spells, or its first fault. -/
def readText (rules : Rules) (text : String) : Except Fault Json :=
  let chars := text.toList
  match readValue rules (fuelFor chars) rules.depth chars with
  | .ok (value, rest) => if (skipBlanks rest).isEmpty then .ok value else .error .malformed
  | .error fault => .error fault

def read (rules : Rules) (text : String) : Option Json := (readText rules text).toOption

def readBytes (rules : Rules) (bytes : Bytes) : Option Json :=
  match Utf8.decode bytes with
  | some content => read rules content
  | none => none

end SignedToken.Json
