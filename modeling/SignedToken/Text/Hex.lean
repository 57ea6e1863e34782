import SignedToken.Bytes

/-!
# Hexadecimal digits
-/

namespace SignedToken.Hex

/-- The lowest `width` hexadecimal digits of a number, in lower case. -/
def digits : (width : Nat) → Nat → List Char
  | 0, _ => []
  | width + 1, number => digits width (number / 16) ++ [Nat.digitChar (number % 16)]

def value? (char : Char) : Option Nat :=
  if '0' ≤ char ∧ char ≤ '9' then some (char.toNat - 48)
  else if 'a' ≤ char ∧ char ≤ 'f' then some (char.toNat - 87)
  else if 'A' ≤ char ∧ char ≤ 'F' then some (char.toNat - 55)
  else none

/-- The number that four digits spell. -/
def four? (a b c d : Char) : Option Nat := do
  some ((← value? a) * 4096 + (← value? b) * 256 + (← value? c) * 16 + (← value? d))

def encode (bytes : Bytes) : String :=
  String.ofList (bytes.flatMap fun byte => digits 2 byte.toNat)

def decodeChars : List Char → Option Bytes
  | [] => some []
  | high :: low :: rest => do
    some (UInt8.ofNat ((← value? high) * 16 + (← value? low)) :: (← decodeChars rest))
  | _ => none

def decode (text : String) : Option Bytes := decodeChars text.toList

end SignedToken.Hex
