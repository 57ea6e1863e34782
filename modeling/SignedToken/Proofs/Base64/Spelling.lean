import Mathlib
import SignedToken.Base64.Url

/-!
# One spelling per byte string

Regrouping octets into sextets loses nothing, and every sextet has one symbol.
Since reading compares a text with what its own bytes are written as, the texts
that can be read are exactly the ones that are written.
-/

namespace SignedToken.Base64

/-! ## Sextets -/

private theorem octet_eq (byte : Byte) {number : Nat} (h : number % 256 = byte.toNat) :
    UInt8.ofNat number = byte := by
  apply UInt8.toNat_inj.mp
  simpa using h

@[simp]
theorem val_sextet (number : Nat) : (sextet number).val = number % 64 := rfl

/-- The way back undoes the regrouping, for all three lengths of the rest. -/
theorem ofSextets_toSextets (bytes : Bytes) : ofSextets (toSextets bytes) = bytes := by
  induction bytes using toSextets.induct with
  | case1 => rfl
  | case2 a =>
      have ha := a.toNat_lt
      simp only [toSextets, ofSextets, val_sextet, List.cons.injEq, and_true]
      exact octet_eq a (by omega)
  | case3 a b =>
      have ha := a.toNat_lt
      have hb := b.toNat_lt
      simp only [toSextets, ofSextets, val_sextet, List.cons.injEq, and_true]
      exact ⟨octet_eq a (by omega), octet_eq b (by omega)⟩
  | case4 a b c rest ih =>
      have ha := a.toNat_lt
      have hb := b.toNat_lt
      have hc := c.toNat_lt
      simp only [toSextets, ofSextets, val_sextet, List.cons.injEq, ih, and_true]
      exact ⟨octet_eq a (by omega), octet_eq b (by omega), octet_eq c (by omega)⟩

/-- A single sextet over holds no octet, so no regrouping leaves one. -/
theorem length_toSextets_mod (bytes : Bytes) : (toSextets bytes).length % 4 ≠ 1 := by
  induction bytes using toSextets.induct with
  | case1 => decide
  | case2 a => simp [toSextets]
  | case3 a b => simp [toSextets]
  | case4 a b c rest ih =>
      simp only [toSextets, List.length_cons]
      omega

/-! ## Symbols -/

theorem digit?_symbol (digit : Sextet) :
    Alphabet.url.digit? (Alphabet.url.symbol digit) = some digit := by
  revert digit
  decide

theorem symbol_ne_dot (digit : Sextet) : Alphabet.url.symbol digit ≠ '.' := by
  revert digit
  decide

/-- Whether a character is one of the sixty-four symbols. -/
def isSymbol (char : Char) : Bool := (Alphabet.url.digit? char).isSome

@[simp]
theorem isSymbol_symbol (digit : Sextet) : isSymbol (Alphabet.url.symbol digit) = true := by
  simp [isSymbol, digit?_symbol]

/-! ## Texts -/

namespace Url

theorem isSymbol_of_mem_encode {bytes : Bytes} {char : Char}
    (h : char ∈ (encode bytes).toList) : isSymbol char = true := by
  simp only [encode, String.toList_ofList, List.mem_map] at h
  obtain ⟨digit, -, rfl⟩ := h
  exact isSymbol_symbol digit

theorem dot_notMem_encode (bytes : Bytes) : '.' ∉ (encode bytes).toList := by
  intro h
  simp only [encode, String.toList_ofList, List.mem_map] at h
  obtain ⟨digit, -, hdot⟩ := h
  exact symbol_ne_dot digit hdot

/-- The code point that stands for a sextet. -/
def symbol (digit : Sextet) : CodePoint := .char (Alphabet.url.symbol digit)

theorem toList_encode (bytes : Bytes) :
    (encode bytes : Text).toList = (toSextets bytes).map symbol := by
  rw [Text.toList_ofString, encode, String.toList_ofList, List.map_map]
  rfl

theorem dot_notMem_text (bytes : Bytes) : .char '.' ∉ (encode bytes : Text).toList := by
  rw [Text.toList_ofString, List.mem_map]
  rintro ⟨char, hchar, hdot⟩
  cases hdot
  exact dot_notMem_encode bytes hchar

theorem mapM_digit?_symbols (digits : List Sextet) :
    (digits.map symbol).mapM digit? = some digits := by
  induction digits with
  | nil => rfl
  | cons digit rest ih =>
      have hdigit : digit? (symbol digit) = some digit := digit?_symbol digit
      simp [hdigit, ih]

@[simp]
theorem decode_encode (bytes : Bytes) : decode (encode bytes) = .ok bytes := by
  have hread : (encode bytes : Text).toList.mapM digit? = some (toSextets bytes) := by
    rw [toList_encode, mapM_digit?_symbols]
  rw [decode, hread]
  simp [length_toSextets_mod, ofSextets_toSextets]

/-- A text that is read is what its bytes are written as. -/
theorem encode_of_decode {text : Text} {bytes : Bytes} (h : decode text = .ok bytes) :
    encode bytes = text := by
  unfold decode at h
  split at h
  · cases h
  · split_ifs at h with _ hcanonical
    cases h
    exact hcanonical

/-- A text reads as a byte string exactly if it is what the byte string is written as. -/
theorem decode_eq_ok_iff {text : Text} {bytes : Bytes} :
    decode text = .ok bytes ↔ encode bytes = text := by
  constructor
  · exact encode_of_decode
  · rintro rfl
    exact decode_encode bytes

theorem encode_injective : Function.Injective encode := by
  intro left right heq
  have hdecode := congrArg (fun text : String => decode text) heq
  simpa only [decode_encode, Except.ok.injEq] using hdecode

/-- The spelling of a byte string; no other text is read as it. -/
def Canonical (text : Text) : Prop := ∃ bytes, encode bytes = text

end Url

end SignedToken.Base64
