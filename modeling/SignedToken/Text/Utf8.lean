import SignedToken.Bytes

/-!
# Text as bytes

Text travels as UTF-8.  Decoding is strict: overlong forms, surrogates and numbers past the last
character are refused, so `decode` accepts exactly what `encode` writes.  Lenient decoding puts a
replacement in the place of what is refused.  ASCII text is the part of it in which one byte is one
character.
-/

namespace SignedToken.Utf8

def encode (text : String) : Bytes := text.toUTF8.data.toList

def decode (bytes : Bytes) : Option String := String.fromUTF8? ⟨bytes.toArray⟩

@[simp]
theorem decode_encode (text : String) : decode (encode text) = some text := by
  have valid : ByteArray.IsValidUTF8 ⟨text.toUTF8.data⟩ := text.isValidUTF8
  unfold decode encode String.fromUTF8?
  simp only [Array.toArray_toList]
  rw [dif_pos valid]
  rfl

theorem eq_encode_of_decode {bytes : Bytes} {text : String} (h : decode bytes = some text) :
    bytes = encode text := by
  unfold decode String.fromUTF8? at h
  split at h
  · cases h
    simp [encode, String.fromUTF8, String.toUTF8]
  · cases h

/-! ## Lenient reading -/

/-- The character that stands for bytes that encode none. -/
def replacement : Char := '\ufffd'

/-- The number of bytes of a character by its first byte; a byte that starts none counts alone. -/
def widthFor (first : Byte) : Nat :=
  if first < 0xC2 then 1
  else if first < 0xE0 then 2
  else if first < 0xF0 then 3
  else if first < 0xF5 then 4
  else 1

/-- Whether a byte may come second in a character: the first byte may leave part of the range out,
because the character would be overlong, a surrogate or past the last one. -/
def maySecond (first second : Byte) : Bool :=
  let lowest : Byte := if first = 0xE0 then 0xA0 else if first = 0xF0 then 0x90 else 0x80
  let highest : Byte := if first = 0xED then 0x9F else if first = 0xF4 then 0x8F else 0xBF
  lowest ≤ second && second ≤ highest

def isContinuation (byte : Byte) : Bool := 0x80 ≤ byte && byte ≤ 0xBF

/-- The number of bytes of the first character, or of as much of it as is there. -/
def firstWidth : Bytes → Nat
  | [] => 0
  | [_] => 1
  | first :: second :: rest =>
    if widthFor first = 1 || !maySecond first second then 1
    else 2 + ((rest.take (widthFor first - 2)).takeWhile isContinuation).length

/-- The characters of a byte string, where each piece that encodes none is replaced by one
character; `fuel` bounds the number of pieces. -/
def lenientChars : (fuel : Nat) → Bytes → List Char
  | 0, _ => []
  | fuel + 1, bytes =>
    if bytes.isEmpty then []
    else
      let width := firstWidth bytes
      let piece := ((decode (bytes.take width)).map String.toList).getD [replacement]
      piece ++ lenientChars fuel (bytes.drop width)

def decodeLenient (bytes : Bytes) : String := String.ofList (lenientChars bytes.length bytes)

end SignedToken.Utf8

namespace SignedToken.Ascii

/-- The text whose characters have the bytes as their numbers; none if a byte is above 127. -/
def decode (bytes : Bytes) : Option String :=
  if bytes.all (· < 128) then
    some (String.ofList (bytes.map fun byte => Char.ofNat byte.toNat))
  else none

/-- The bytes of a text, if all its characters are ASCII. -/
def encode (text : String) : Option Bytes :=
  if text.toList.all (·.toNat < 128) then some (Bytes.ofAscii text) else none

end SignedToken.Ascii
