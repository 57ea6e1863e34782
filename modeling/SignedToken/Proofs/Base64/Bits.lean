import SignedToken.Failure.Basic
import SignedToken.Proofs.Base64.Spelling

/-!
# Base64 as a regrouping of bits

The symbols of a text stand for six bits each.  A text is the base64 of a byte
string exactly if its bits are those of the byte string, filled up with zeros to
a whole number of symbols.  Reading undoes writing and accepts nothing else, so
there is one text for every byte string and no other text is read at all.
-/

namespace SignedToken.Base64

/-! ## Bits -/

/-- The `width` lowest bits of a number, the most significant first. -/
def bits : (width number : Nat) → List Bool
  | 0, _ => []
  | width + 1, number => number.testBit width :: bits width number

@[simp]
theorem length_bits (width number : Nat) : (bits width number).length = width := by
  induction width with
  | zero => rfl
  | succ width ih => rw [bits, List.length_cons, ih]

/-- The high bits of a number are those of its quotient. -/
theorem bits_add (high low number : Nat) :
    bits (high + low) number = bits high (number / 2 ^ low) ++ bits low number := by
  induction high with
  | zero => simp [bits]
  | succ high ih =>
      rw [Nat.succ_add, bits, ih, bits, Nat.testBit_div_two_pow, List.cons_append]

private theorem bits_eq_iff_testBit {width left right : Nat} :
    bits width left = bits width right ↔
      ∀ place < width, left.testBit place = right.testBit place := by
  induction width with
  | zero => simp [bits]
  | succ width ih =>
      rw [bits, bits, List.cons.injEq, ih, Nat.forall_lt_succ_right, and_comm]

/-- The low bits of a number depend on its remainder only, and give it away. -/
theorem bits_eq_iff {width left right : Nat} :
    bits width left = bits width right ↔ left % 2 ^ width = right % 2 ^ width := by
  rw [bits_eq_iff_testBit]
  constructor
  · intro hbits
    apply Nat.eq_of_testBit_eq
    intro place
    rw [Nat.testBit_mod_two_pow, Nat.testBit_mod_two_pow]
    by_cases hplace : place < width
    · rw [hbits place hplace]
    · simp [hplace]
  · intro hmod place hplace
    have htest := congrArg (fun number => number.testBit place) hmod
    simpa [Nat.testBit_mod_two_pow, hplace] using htest

/-- The bits of a number that is taken apart. -/
theorem bits_div_mod (high low number : Nat) :
    bits (high + low) number = bits high (number / 2 ^ low) ++ bits low (number % 2 ^ low) := by
  have hlow : bits low (number % 2 ^ low) = bits low number :=
    bits_eq_iff.mpr (Nat.mod_mod number (2 ^ low))
  rw [bits_add, hlow]

/-- The bits of a number that is put together from two parts. -/
theorem bits_mul_add (high low number : Nat) {rest : Nat} (hrest : rest < 2 ^ low) :
    bits (high + low) (number * 2 ^ low + rest) = bits high number ++ bits low rest := by
  have hquotient : (number * 2 ^ low + rest) / 2 ^ low = number := by
    rw [Nat.mul_comm, Nat.mul_add_div (Nat.two_pow_pos low), Nat.div_eq_of_lt hrest, Nat.add_zero]
  have hremainder : bits low (number * 2 ^ low + rest) = bits low rest := by
    rw [bits_eq_iff, Nat.mul_comm, Nat.mul_add_mod]
  rw [bits_add, hquotient, hremainder]

theorem bits_zero (width : Nat) : bits width 0 = List.replicate width false := by
  induction width with
  | zero => rfl
  | succ width ih => rw [bits, ih, Nat.zero_testBit, List.replicate_succ]

/-! ## Octets and sextets -/

def octetBits (byte : Byte) : List Bool := bits 8 byte.toNat

def sextetBits (digit : Sextet) : List Bool := bits 6 digit.val

private theorem sextetBits_sextet (number : Nat) : sextetBits (sextet number) = bits 6 number :=
  bits_eq_iff.mpr (Nat.mod_mod number 64)

/-- The number of zero bits that fill up the last sextet of a byte string. -/
def fillFor (octets : Nat) : Nat := 2 * ((3 - octets % 3) % 3)

/-- Regrouping keeps the bits and their order, and adds no more than it has to. -/
theorem sextetBits_toSextets (bytes : Bytes) :
    (toSextets bytes).flatMap sextetBits =
      bytes.flatMap octetBits ++ List.replicate (fillFor bytes.length) false := by
  -- Three octets are cut after six, four and two of their bits.
  have hfirst (a : Nat) : bits 8 a = bits 6 (a / 4) ++ bits 2 (a % 4) := bits_div_mod 6 2 a
  have hsecond (b : Nat) : bits 8 b = bits 4 (b / 16) ++ bits 4 (b % 16) := bits_div_mod 4 4 b
  have hthird (c : Nat) : bits 8 c = bits 2 (c / 64) ++ bits 6 c := bits_add 2 6 c
  induction bytes using toSextets.induct with
  | case1 => rfl
  | case2 a =>
      have hlast := bits_mul_add 2 4 (a.toNat % 4) (Nat.two_pow_pos 4)
      simp only [Nat.add_zero, Nat.reduceAdd, Nat.reducePow] at hlast
      simp only [toSextets, List.flatMap_cons, List.flatMap_nil, sextetBits_sextet, octetBits,
        hfirst, hlast, bits_zero, List.append_assoc, List.append_nil]
      rfl
  | case3 a b =>
      have hb := b.toNat_lt
      have hmiddle := bits_mul_add 2 4 (a.toNat % 4) (by omega : b.toNat / 16 < 2 ^ 4)
      have hlast := bits_mul_add 4 2 (b.toNat % 16) (Nat.two_pow_pos 2)
      simp only [Nat.add_zero, Nat.reduceAdd, Nat.reducePow] at hmiddle hlast
      simp only [toSextets, List.flatMap_cons, List.flatMap_nil, sextetBits_sextet, octetBits,
        hfirst a.toNat, hsecond b.toNat, hmiddle, hlast, bits_zero, List.append_assoc,
        List.append_nil]
      rfl
  | case4 a b c rest ih =>
      have hb := b.toNat_lt
      have hc := c.toNat_lt
      have hmiddle := bits_mul_add 2 4 (a.toNat % 4) (by omega : b.toNat / 16 < 2 ^ 4)
      have hlater := bits_mul_add 4 2 (b.toNat % 16) (by omega : c.toNat / 64 < 2 ^ 2)
      have hfill : fillFor (a :: b :: c :: rest).length = fillFor rest.length := by
        simp only [fillFor, List.length_cons]
        omega
      simp only [Nat.reduceAdd, Nat.reducePow] at hmiddle hlater
      simp only [toSextets, List.flatMap_cons, sextetBits_sextet, octetBits, hfirst a.toNat,
        hsecond b.toNat, hthird c.toNat, hmiddle, hlater, List.append_assoc, hfill, ih]

theorem sextetBits_injective : Function.Injective sextetBits := by
  intro left right hbits
  have hmod : left.val % 64 = right.val % 64 := bits_eq_iff.mp hbits
  rw [Nat.mod_eq_of_lt left.isLt, Nat.mod_eq_of_lt right.isLt] at hmod
  exact Fin.ext hmod

@[simp]
theorem length_flatMap_octetBits (bytes : Bytes) :
    (bytes.flatMap octetBits).length = bytes.length * 8 := by
  simp [octetBits]

@[simp]
theorem length_flatMap_sextetBits (digits : List Sextet) :
    (digits.flatMap sextetBits).length = digits.length * 6 := by
  simp [sextetBits]

private theorem flatMap_sextetBits_cons_ne_nil (digit : Sextet) (digits : List Sextet) :
    (digit :: digits).flatMap sextetBits ≠ [] := by
  apply List.ne_nil_of_length_pos
  rw [length_flatMap_sextetBits, List.length_cons]
  omega

theorem flatMap_sextetBits_injective :
    Function.Injective fun digits : List Sextet => digits.flatMap sextetBits := by
  intro left
  induction left with
  | nil =>
      rintro (_ | ⟨digit, right⟩) hbits
      · rfl
      · exact absurd hbits.symm (flatMap_sextetBits_cons_ne_nil digit right)
  | cons digit left ih =>
      rintro (_ | ⟨other, right⟩) hbits
      · exact absurd hbits (flatMap_sextetBits_cons_ne_nil digit left)
      · have hsame : (sextetBits digit).length = (sextetBits other).length := by
          rw [sextetBits, sextetBits, length_bits, length_bits]
        obtain ⟨hhead, htail⟩ := List.append_inj hbits hsame
        rw [sextetBits_injective hhead, ih htail]

/-! ## Texts -/

namespace Url

/-- The symbols in the order of the sextets that they stand for. -/
def symbols : List CodePoint :=
  ("ABCDEFGHIJKLMNOPQRSTUVWXYZabcdefghijklmnopqrstuvwxyz0123456789-_" : Text).toList

/-- Whether a code point stands for a sextet. -/
def IsSymbolOf (point : CodePoint) (digit : Sextet) : Prop := symbols[digit.val]? = some point

theorem getElem?_symbols (digit : Sextet) : symbols[digit.val]? = some (symbol digit) := by
  revert digit
  decide

private theorem forall₂_isSymbolOf_iff {points : List CodePoint} {digits : List Sextet} :
    List.Forall₂ IsSymbolOf points digits ↔ points = digits.map symbol := by
  have hsymbol (point : CodePoint) (digit : Sextet) :
      IsSymbolOf point digit ↔ point = symbol digit := by
    rw [IsSymbolOf, getElem?_symbols, Option.some.injEq, eq_comm]
  have hrelation : IsSymbolOf = fun point digit => point = symbol digit := by
    funext point digit
    exact propext (hsymbol point digit)
  rw [← List.forall₂_eq_eq_eq, List.forall₂_map_right_iff, hrelation]

/-- A text spells a byte string if its symbols have the bits of the byte string, filled up with
zeros that are too few for a symbol of their own. -/
def Spells (text : Text) (bytes : Bytes) : Prop :=
  ∃ digits fill, List.Forall₂ IsSymbolOf text.toList digits ∧ fill < 6 ∧
    digits.flatMap sextetBits = bytes.flatMap octetBits ++ List.replicate fill false

/-- The number of zeros follows from the number of bytes, so the bits leave no choice. -/
theorem encode_eq_iff_spells {text : Text} {bytes : Bytes} :
    encode bytes = text ↔ Spells text bytes := by
  have hwritten := sextetBits_toSextets bytes
  have hfew : fillFor bytes.length < 6 := by
    rw [fillFor]
    omega
  constructor
  · rintro rfl
    refine ⟨toSextets bytes, fillFor bytes.length, ?_, hfew, hwritten⟩
    rw [forall₂_isSymbolOf_iff, toList_encode]
  · rintro ⟨digits, fill, hsymbols, hfill, hbits⟩
    have hlength := congrArg List.length hbits
    have hlengthWritten := congrArg List.length hwritten
    simp only [List.length_append, List.length_replicate, length_flatMap_octetBits,
      length_flatMap_sextetBits] at hlength hlengthWritten
    have hsame : fill = fillFor bytes.length := by omega
    have hdigits : digits = toSextets bytes := by
      apply flatMap_sextetBits_injective
      rw [hsame] at hbits
      exact hbits.trans hwritten.symm
    rw [forall₂_isSymbolOf_iff, hdigits] at hsymbols
    apply Text.ext
    rw [toList_encode, hsymbols]

/-- Whether reading ends with the error for what is no base64. -/
def Refused (outcome : Except Failure Bytes) : Prop :=
  ∃ failure, outcome = .error failure ∧ (DecodeFailure.base64 failure).kind = .base64DecodeError

/-- Refused are the texts that spell no byte string. -/
theorem refused_iff {text : Text} :
    Refused (decode text) ↔ ∀ bytes : Bytes, encode bytes ≠ text := by
  constructor
  · rintro ⟨failure, hfails, -⟩ bytes rfl
    rw [decode_encode] at hfails
    cases hfails
  · intro hnone
    cases hread : decode text with
    | error failure => exact ⟨failure, rfl, rfl⟩
    | ok bytes => exact absurd (encode_of_decode hread) (hnone bytes)

theorem decodeBytes_of_ascii {spelling : Bytes} (hascii : ∀ byte ∈ spelling, byte < 128) :
    decodeBytes spelling =
      decode (String.ofList (spelling.map fun byte => Char.ofNat byte.toNat)) := by
  have hall : spelling.all (· < 128) = true := by simpa using hascii
  rw [decodeBytes, Ascii.decode, if_pos hall]

theorem refused_of_not_ascii {spelling : Bytes} (hascii : ¬∀ byte ∈ spelling, byte < 128) :
    Refused (decodeBytes spelling) := by
  have hall : ¬spelling.all (· < 128) = true := by simpa using hascii
  rw [decodeBytes, Ascii.decode, if_neg hall]
  exact ⟨.nonAscii, rfl, rfl⟩

/-- The texts that are read are exactly those that are written, each as the byte string that it is
written for, which are exactly those with the bits of a byte string; every other text is refused.
A byte string in the place of a text is read as its ASCII characters, and refused if it has
others. -/
theorem decode_inverts_encode :
    (∀ (text : Text) (bytes : Bytes), decode text = .ok bytes ↔ encode bytes = text) ∧
      (∀ (text : Text) (bytes : Bytes), encode bytes = text ↔ Spells text bytes) ∧
      (∀ text : Text, Refused (decode text) ↔ ∀ bytes : Bytes, encode bytes ≠ text) ∧
      (∀ bytes, ∃! text, decode text = .ok bytes) ∧
      Function.Injective encode ∧
      (∀ spelling : Bytes, (∀ byte ∈ spelling, byte < 128) →
        decodeBytes spelling =
          decode (String.ofList (spelling.map fun byte => Char.ofNat byte.toNat))) ∧
      ∀ spelling : Bytes, (¬∀ byte ∈ spelling, byte < 128) → Refused (decodeBytes spelling) := by
  refine ⟨fun _ _ => decode_eq_ok_iff, fun _ _ => encode_eq_iff_spells, fun _ => refused_iff, ?_,
    encode_injective, fun _ => decodeBytes_of_ascii, fun _ => refused_of_not_ascii⟩
  intro bytes
  refine ⟨encode bytes, decode_encode bytes, fun text hread => ?_⟩
  exact (encode_of_decode hread).symm

theorem decode_inverts_encode_of_two :
    decode "Zm8" = .ok [102, 111] ∧ Spells "Zm8" [102, 111] ∧
      decodeBytes [90, 109, 56] = .ok [102, 111] ∧ Refused (decodeBytes [90, 109, 184]) := by
  obtain ⟨hread, hspells, -, -, -, hbytes, hrefused⟩ := decode_inverts_encode
  have hwritten : (encode [102, 111] : Text) = "Zm8" := rfl
  have hdecoded := (hread "Zm8" [102, 111]).mpr hwritten
  exact ⟨hdecoded, (hspells _ _).mp hwritten, (hbytes _ (by simp)).trans hdecoded,
    hrefused _ (by simp)⟩

end Url

end SignedToken.Base64
