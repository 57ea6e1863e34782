import Mathlib
import SignedToken.Text.Utf8

/-!
# ASCII in encoded text

The bytes of an encoded text that are below 128 are its ASCII characters, each of
them one byte.  So a mark of ASCII characters is found in the bytes of a text
exactly where it stands in the text.
-/

namespace SignedToken.Utf8

theorem encode_injective : Function.Injective encode := by
  intro left right heq
  have hdecode := congrArg decode heq
  rw [decode_encode, decode_encode] at hdecode
  exact Option.some.inj hdecode

theorem encode_eq_flatMap (text : String) :
    encode text = text.toList.flatMap String.utf8EncodeChar := by
  rw [← String.ofList_toList (s := text), encode, String.toUTF8_eq_toByteArray,
    String.toByteArray_ofList, List.utf8Encode, List.data_toByteArray, String.toList_ofList]

theorem encode_ofList_append (left right : List Char) :
    encode (String.ofList (left ++ right)) =
      encode (String.ofList left) ++ encode (String.ofList right) := by
  simp [encode_eq_flatMap]

theorem encode_ofList_eq_nil_iff {chars : List Char} :
    encode (String.ofList chars) = [] ↔ chars = [] := by
  constructor
  · intro hnil
    have hempty : String.ofList chars = "" := encode_injective hnil
    simpa using congrArg String.toList hempty
  · rintro rfl
    rfl

/-- All bytes of a character that takes several are at least 128. -/
private theorem utf8EncodeChar_cases (char : Char) :
    (char.toNat < 128 ∧ String.utf8EncodeChar char = [UInt8.ofNat char.toNat]) ∨
      (128 ≤ char.toNat ∧ ∀ byte ∈ String.utf8EncodeChar char, 128 ≤ byte.toNat) := by
  have hnumber : char.val.toNat = char.toNat := rfl
  simp only [String.utf8EncodeChar, hnumber]
  split_ifs with hone htwo hthree
  · exact .inl ⟨by omega, rfl⟩
  all_goals
    refine .inr ⟨by omega, ?_⟩
    simp only [List.mem_cons, List.not_mem_nil, or_false, forall_eq_or_imp, forall_eq,
      UInt8.toNat_ofNat']
    omega

theorem mem_encode_iff {text : String} {char : Char} (h : char.toNat < 128) :
    UInt8.ofNat char.toNat ∈ encode text ↔ char ∈ text.toList := by
  have hbyte : (UInt8.ofNat char.toNat).toNat = char.toNat := by
    rw [UInt8.toNat_ofNat']
    omega
  rw [encode_eq_flatMap, List.mem_flatMap]
  constructor
  · rintro ⟨found, hfound, hmem⟩
    obtain ⟨hascii, hencoded⟩ | ⟨-, hhigh⟩ := utf8EncodeChar_cases found
    · rw [hencoded, List.mem_singleton] at hmem
      have hnumber : found.toNat = char.toNat := by
        rw [← hbyte, hmem, UInt8.toNat_ofNat']
        omega
      rwa [← Char.toNat_inj.mp hnumber]
    · have hbytes := hhigh _ hmem
      omega
  · intro hmem
    obtain ⟨-, hencoded⟩ | ⟨hhigh, -⟩ := utf8EncodeChar_cases char
    · exact ⟨char, hmem, by simp [hencoded]⟩
    · omega

theorem encode_of_ascii {text : String} {bytes : Bytes} (h : Ascii.encode text = some bytes) :
    encode text = bytes := by
  rw [Ascii.encode] at h
  split_ifs at h with hascii
  cases h
  rw [encode_eq_flatMap, Bytes.ofAscii, List.map_eq_flatMap]
  refine List.flatMap_congr fun char hchar => ?_
  obtain ⟨-, hencoded⟩ | ⟨hhigh, -⟩ := utf8EncodeChar_cases char
  · exact hencoded
  · have hlow : char.toNat < 128 := by simpa using List.all_eq_true.mp hascii char hchar
    omega

end SignedToken.Utf8
