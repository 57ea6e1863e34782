import Mathlib
import SignedToken.Der.Reader
import SignedToken.Proofs.Keyholder.Width

/-!
# Written elements are read back

An element is written with its tag and its length in front, so a reader that is
given it, with anything behind it, gets back its tag, its content and the element
as a whole.  The digits of a length are counted in one byte, which is enough for
every content of less than 256 to the 127 bytes.
-/

namespace SignedToken

/-! ## Digits of a number -/

namespace Bytes

theorem toNat_append_singleton (bytes : Bytes) (byte : Byte) :
    toNat (bytes ++ [byte]) = toNat bytes * 256 + byte.toNat := by
  simp [toNat]

theorem toNat_zero_cons (bytes : Bytes) : toNat (0 :: bytes) = toNat bytes := rfl

theorem toNat_lt (bytes : Bytes) : toNat bytes < 256 ^ bytes.length := by
  induction bytes using List.reverseRecOn with
  | nil => decide
  | append_singleton bytes byte ih =>
      have hbyte := byte.toNat_lt
      rw [toNat_append_singleton, List.length_append, List.length_singleton, pow_succ]
      omega

theorem toNat_ofNat {width number : Nat} (h : number < 256 ^ width) :
    toNat (ofNat width number) = number := by
  induction width generalizing number with
  | zero =>
      rw [pow_zero, Nat.lt_one_iff] at h
      rw [h]
      rfl
  | succ width ih =>
      have hhigh : number / 256 < 256 ^ width := by
        rw [Nat.div_lt_iff_lt_mul (by decide), ← pow_succ]
        exact h
      rw [ofNat, toNat_append_singleton, ih hhigh, UInt8.toNat_ofNat']
      omega

theorem lt_pow_minimal (number : Nat) : number < 256 ^ (minimal number).length := by
  rw [minimal, length_ofNat]
  exact (bytesFor_bitLength_le_iff _ _).mp le_rfl

theorem toNat_minimal (number : Nat) : toNat (minimal number) = number := by
  have h := lt_pow_minimal number
  rw [minimal, length_ofNat] at h
  exact toNat_ofNat h

theorem length_minimal_le_iff (number width : Nat) :
    (minimal number).length ≤ width ↔ number < 256 ^ width := by
  rw [minimal, length_ofNat, bytesFor_bitLength_le_iff]

/-- There is no byte in front that the number could do without. -/
theorem head_minimal_ne_zero {number : Nat} {first : Byte} {rest : Bytes}
    (h : minimal number = first :: rest) : first ≠ 0 := by
  rintro rfl
  have hnumber : number = toNat rest := by
    rw [← toNat_minimal number, h, toNat_zero_cons]
  have hshort : (minimal number).length ≤ rest.length :=
    (length_minimal_le_iff _ _).mpr (hnumber ▸ toNat_lt rest)
  rw [h, List.length_cons] at hshort
  omega

end Bytes

namespace Der

/-! ## Lengths -/

/-- A length that has at most 127 digits. -/
def lengthBound : Nat := 256 ^ 127

theorem readLength_encodeLength {length : Nat} (h : length < lengthBound) (rest : Bytes) :
    readLength (encodeLength length ++ rest) = some (length, rest) := by
  have hdigits : (Bytes.minimal length).length ≤ 127 := (Bytes.length_minimal_le_iff _ _).mpr h
  by_cases hshort : length < 128
  · have hfirst : UInt8.ofNat length < 128 := by
      rw [UInt8.lt_iff_toNat_lt, UInt8.toNat_ofNat', Nat.mod_eq_of_lt (by omega)]
      exact hshort
    rw [encodeLength, if_pos hshort, List.singleton_append, readLength, if_pos hfirst,
      UInt8.toNat_ofNat', Nat.mod_eq_of_lt (by omega)]
  · have hcount : (UInt8.ofNat (128 + (Bytes.minimal length).length)).toNat =
        128 + (Bytes.minimal length).length := by
      rw [UInt8.toNat_ofNat']
      omega
    have hfirst : ¬UInt8.ofNat (128 + (Bytes.minimal length).length) < 128 := by
      rw [UInt8.lt_iff_toNat_lt, hcount]
      exact Nat.not_lt.mpr (Nat.le_add_right _ _)
    have hwritten : encodeLength length =
        UInt8.ofNat (128 + (Bytes.minimal length).length) :: Bytes.minimal length := by
      rw [encodeLength, if_neg hshort]
    rw [hwritten, List.cons_append, readLength, if_neg hfirst, hcount, Nat.add_sub_cancel_left]
    simp only [List.take_left, List.drop_left, Bytes.toNat_minimal, if_pos hwritten]

theorem length_encodeLength_le (length : Nat) : (encodeLength length).length ≤ length + 1 := by
  rw [encodeLength]
  split_ifs with hshort
  · simp
  · have hdigits : (Bytes.minimal length).length ≤ length :=
      (Bytes.length_minimal_le_iff _ _).mpr (Nat.lt_pow_self (by decide))
    simpa using hdigits

/-! ## Elements -/

def tag : Der → Byte
  | .primitive tag _ => tag
  | .constructed tag _ => tag

def content : Der → Bytes
  | .primitive _ content => content
  | .constructed _ parts => encodeAll parts

theorem encode_eq (tree : Der) : tree.encode = encodeElement tree.tag tree.content := by
  cases tree <;> rw [encode] <;> rfl

/-- What a reader makes of a tree that is written. -/
def element (tree : Der) : Element := ⟨tree.tag, tree.content, tree.encode⟩

/-- Whether the tag of a tree is the one byte that is written. -/
def ShortTag (tree : Der) : Prop := tree.tag &&& 0x1F ≠ 0x1F

/-- Whether a tree is not too large to be read back, and has a tag of one byte. -/
structure Readable (tree : Der) : Prop where
  tag_short : tree.ShortTag
  length_lt : tree.encode.length < lengthBound

variable {tree part : Der} {parts : List Der}

theorem length_content_lt (tree : Der) : tree.content.length < tree.encode.length := by
  rw [encode_eq, encodeElement, List.length_append, List.length_cons]
  omega

theorem readElement_encode (h : tree.Readable) (rest : Bytes) :
    readElement (tree.encode ++ rest) = some (tree.element, rest) := by
  have hcontent : tree.content.length < lengthBound := (length_content_lt tree).trans h.length_lt
  have hwritten : tree.encode ++ rest =
      tree.tag :: (encodeLength tree.content.length ++ (tree.content ++ rest)) := by
    simp [encode_eq, encodeElement]
  have hafter : afterTag? (tree.encode ++ rest) =
      some (encodeLength tree.content.length ++ (tree.content ++ rest)) := by
    have hshort : ¬(tree.tag &&& 0x1F == 0x1F) = true := fun heq => h.tag_short (eq_of_beq heq)
    rw [hwritten, afterTag?, if_neg hshort]
  have hhead : (tree.encode ++ rest).head? = some tree.tag := by
    rw [hwritten, List.head?_cons]
  have hsize : (tree.encode ++ rest).length - (tree.content ++ rest).length +
      tree.content.length = tree.encode.length := by
    have hlt := length_content_lt tree
    rw [List.length_append, List.length_append]
    omega
  have hfits : tree.content.length ≤ (tree.content ++ rest).length := by
    rw [List.length_append]
    exact Nat.le_add_right _ _
  rw [readElement, hhead, hafter]
  simp only [Option.bind_eq_bind, Option.bind_some, readLength_encodeLength hcontent, if_pos hfits,
    hsize, List.take_left, List.drop_left]
  rfl

theorem length_encodeAll_cons (part : Der) (parts : List Der) :
    (encodeAll (part :: parts)).length = part.encode.length + (encodeAll parts).length := by
  rw [encodeAll, List.length_append]

theorem length_le_encodeAll : parts.length ≤ (encodeAll parts).length := by
  induction parts with
  | nil => exact Nat.zero_le _
  | cons part parts ih =>
      have hpart := length_content_lt part
      rw [length_encodeAll_cons, List.length_cons]
      omega

theorem length_encode_le_of_mem (h : part ∈ parts) :
    part.encode.length ≤ (encodeAll parts).length := by
  induction parts with
  | nil => cases h
  | cons first rest ih =>
      rw [length_encodeAll_cons]
      rcases List.mem_cons.mp h with rfl | hrest
      · exact Nat.le_add_right _ _
      · exact (ih hrest).trans (Nat.le_add_left _ _)

theorem readElements_encodeAll (h : ∀ part ∈ parts, part.Readable) {fuel : Nat}
    (hfuel : parts.length ≤ fuel) :
    readElements fuel (encodeAll parts) = some (parts.map element) := by
  induction parts generalizing fuel with
  | nil => cases fuel <;> rfl
  | cons part parts ih =>
      obtain ⟨fuel, rfl⟩ : ∃ less, fuel = less + 1 :=
        Nat.exists_eq_succ_of_ne_zero (by rintro rfl; cases hfuel)
      have hrest : readElements fuel (encodeAll parts) = some (parts.map element) :=
        ih (fun other hother => h other (List.mem_cons_of_mem _ hother))
          (Nat.le_of_succ_le_succ hfuel)
      have hfirst := readElement_encode (h part List.mem_cons_self) (encodeAll parts)
      rw [encodeAll]
      cases hwritten : part.encode ++ encodeAll parts with
      | nil =>
          rw [hwritten] at hfirst
          cases hfirst
      | cons byte bytes =>
          rw [hwritten] at hfirst
          simp only [readElements, hfirst, Option.bind_eq_bind, Option.bind_some, hrest,
            List.map_cons]

/-- Elements that are written one after the other are read back. -/
theorem elements?_encodeAll (h : ∀ part ∈ parts, part.Readable) :
    elements? (encodeAll parts) = some (parts.map element) :=
  readElements_encodeAll h length_le_encodeAll

theorem element?_encode (h : tree.Readable) : element? tree.encode = some tree.element := by
  have helements : elements? (encodeAll [tree]) = some [tree.element] :=
    elements?_encodeAll (by simpa using h)
  rw [encodeAll, encodeAll, List.append_nil] at helements
  rw [element?, helements]

/-! ## Parts of an element -/

/-- The parts of a readable tree are no larger, so only their tags are looked at. -/
theorem Readable.of_parts {outer : Byte} (h : (Der.constructed outer parts).Readable)
    (hshort : ∀ part ∈ parts, part.ShortTag) : ∀ part ∈ parts, part.Readable := by
  intro part hpart
  constructor
  · exact hshort part hpart
  · calc part.encode.length
        ≤ (encodeAll parts).length := length_encode_le_of_mem hpart
      _ < (Der.constructed outer parts).encode.length :=
        length_content_lt (.constructed outer parts)
      _ < lengthBound := h.length_lt

theorem parts?_sequence (h : ∀ part ∈ parts, part.Readable) :
    (sequence parts).element.parts? = some (parts.map element) := by
  have hcontent : (sequence parts).element.contentOf? sequenceTag = some (encodeAll parts) := rfl
  rw [Element.parts?, hcontent]
  exact elements?_encodeAll h

theorem sequence?_encode (h : (sequence parts).Readable) (hparts : ∀ part ∈ parts, part.Readable) :
    sequence? (sequence parts).encode = some (parts.map element) := by
  rw [sequence?, element?_encode h]
  exact parts?_sequence hparts

/-! ## Kinds of element -/

@[simp]
theorem shortTag_sequence (parts : List Der) : (sequence parts).ShortTag :=
  show sequenceTag &&& 0x1F ≠ 0x1F by decide

@[simp]
theorem shortTag_integer (number : Nat) : (integer number).ShortTag := by
  have htag : (integer number).tag = integerTag := by
    unfold integer
    cases Bytes.minimal number <;> rfl
  rw [ShortTag, htag]
  decide

@[simp]
theorem shortTag_octets (content : Bytes) : (octets content).ShortTag :=
  show octetsTag &&& 0x1F ≠ 0x1F by decide

@[simp]
theorem shortTag_bits (content : Bytes) : (bits content).ShortTag :=
  show bitsTag &&& 0x1F ≠ 0x1F by decide

@[simp]
theorem shortTag_identifier (content : Bytes) : (identifier content).ShortTag :=
  show identifierTag &&& 0x1F ≠ 0x1F by decide

@[simp]
theorem shortTag_null : null.ShortTag := show nullTag &&& 0x1F ≠ 0x1F by decide

@[simp]
theorem shortTag_context_one (part : Der) : (context 1 part).ShortTag :=
  show contextTag 1 &&& 0x1F ≠ 0x1F by decide

theorem natural?_integer (number : Nat) : (integer number).element.natural? = some number := by
  have hnumber := Bytes.toNat_minimal number
  cases hdigits : Bytes.minimal number with
  | nil =>
      have hinteger : integer number = .primitive integerTag [0] := by simp only [integer, hdigits]
      obtain rfl : 0 = number := by rw [← hnumber, hdigits]; rfl
      rw [hinteger]
      rfl
  | cons first rest =>
      have hzero := Bytes.head_minimal_ne_zero hdigits
      by_cases hlow : first < 128
      · have hinteger : integer number = .primitive integerTag (first :: rest) := by
          simp only [integer, hdigits, if_pos hlow]
        have hcontent : (integer number).element.contentOf? integerTag = some (first :: rest) := by
          rw [hinteger]
          rfl
        rw [Element.natural?, hcontent, ← hnumber, hdigits]
        cases rest with
        | nil => simp [hlow, Bytes.toNat]
        | cons second rest => simp [hlow, hzero]
      · have hinteger : integer number = .primitive integerTag (0 :: first :: rest) := by
          simp only [integer, hdigits, if_neg hlow]
        have hcontent : (integer number).element.contentOf? integerTag =
            some (0 :: first :: rest) := by
          rw [hinteger]
          rfl
        have hhigh : 128 ≤ first := UInt8.not_lt.mp hlow
        rw [Element.natural?, hcontent, ← hnumber, hdigits]
        simp [hhigh, Bytes.toNat_zero_cons]

theorem naturals?_encode {numbers : List Nat}
    (h : (sequence (numbers.map integer)).Readable) :
    naturals? (sequence (numbers.map integer)).encode = some numbers := by
  have hparts : ∀ part ∈ numbers.map integer, part.Readable := h.of_parts (by simp)
  have hnumbers : ∀ numbers : List Nat,
      ((numbers.map integer).map element).mapM Element.natural? = some numbers := by
    intro numbers
    induction numbers with
    | nil => rfl
    | cons number numbers ih =>
        rw [List.map_cons, List.map_cons, List.mapM_cons, natural?_integer, ih]
        rfl
  rw [naturals?, sequence?_encode h hparts]
  exact hnumbers numbers

theorem octets?_octets (content : Bytes) : (octets content).element.octets? = some content := rfl

theorem bits?_bits (content : Bytes) : (bits content).element.bits? = some content := by
  have hcontent : (bits content).element.contentOf? bitsTag = some (0 :: content) := rfl
  rw [Element.bits?, hcontent]
  simp [Power.ofTwo, Nat.mod_one]

theorem identifier?_identifier {content : Bytes} (h : isIdentifier content = true) :
    (identifier content).element.identifier? = some content := by
  have hcontent : (identifier content).element.contentOf? identifierTag = some content := rfl
  rw [Element.identifier?, hcontent, Option.filter_some, if_pos h]

/-- What is put under a number is found there. -/
theorem context?_context (number : Nat) (h : part.Readable) :
    (context number part).element.context? number = some part.element := by
  have hcontent : (context number part).element.contentOf? (contextTag number) =
      some part.encode := by
    have hparts : encodeAll [part] = part.encode := by
      rw [encodeAll, encodeAll, List.append_nil]
    rw [← hparts]
    exact if_pos rfl
  rw [Element.context?, hcontent]
  exact element?_encode h

/-! ## Sizes -/

/-- Tag and length are no longer than what they stand in front of, but for two bytes. -/
theorem length_encode_le (tree : Der) :
    tree.encode.length ≤ 2 * tree.content.length + 2 := by
  have hlength := length_encodeLength_le tree.content.length
  rw [encode_eq, encodeElement, List.length_append, List.length_cons]
  omega

theorem length_integer_le {number width : Nat} (h : number < 256 ^ width) :
    (integer number).encode.length ≤ 2 * width + 4 := by
  have hdigits := (Bytes.length_minimal_le_iff _ _).mpr h
  have hcontent : (integer number).content.length ≤ width + 1 := by
    unfold integer
    cases hminimal : Bytes.minimal number with
    | nil => exact Nat.le_add_left _ _
    | cons first rest =>
        rw [hminimal] at hdigits
        dsimp only [content]
        split_ifs
        · exact hdigits.trans (Nat.le_succ _)
        · exact Nat.succ_le_succ hdigits
  have hencode := length_encode_le (integer number)
  omega

end Der

end SignedToken
