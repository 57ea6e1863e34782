/-!
# Byte strings

A byte string is a list of bytes.  Numbers are read from and written to byte strings most
significant byte first, either at a fixed width or with as few bytes as the number needs.
-/

namespace SignedToken

abbrev Byte := UInt8

abbrev Bytes := List Byte

namespace Bytes

/-- The number whose digits to base 256 are the given bytes, most significant first. -/
def toNat (bytes : Bytes) : Nat :=
  bytes.foldl (fun number byte => number * 256 + byte.toNat) 0

/-- The `width` lowest digits of a number to base 256, most significant first. -/
def ofNat : (width : Nat) → Nat → Bytes
  | 0, _ => []
  | width + 1, number => ofNat width (number / 256) ++ [UInt8.ofNat number]

@[simp]
theorem length_ofNat (width number : Nat) : (ofNat width number).length = width := by
  induction width generalizing number with
  | zero => rfl
  | succ width ih => simp [ofNat, ih]

/-- The number of bits of a number without leading zeros; zero has none. -/
def bitLength (number : Nat) : Nat :=
  if number = 0 then 0 else number.log2 + 1

def bytesFor (bits : Nat) : Nat := (bits + 7) / 8

/-- The bytes of a number without leading zero bytes; zero is the empty byte string. -/
def minimal (number : Nat) : Bytes :=
  ofNat (bytesFor (bitLength number)) number

/-- The bytes of a text whose characters are all below U+0100, one byte a character. -/
def ofAscii (text : String) : Bytes :=
  text.toList.map fun char => UInt8.ofNat char.toNat

end Bytes

end SignedToken
