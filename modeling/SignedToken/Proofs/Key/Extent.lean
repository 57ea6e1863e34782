import SignedToken.Key.Import
import SignedToken.Proofs.Der.Written
import SignedToken.Proofs.Key.Block

/-!
# Numbers from a file

Every number of a key stands in the file that the key is read from, so it has no
more bytes than the file.
-/

namespace SignedToken

/-! ## Elements -/

namespace Der

variable {bytes rest : Bytes} {element part : Element}

theorem length_of_readNumber {number : Nat} (h : readNumber bytes = some (number, rest)) :
    rest.length ≤ bytes.length := by
  rw [readNumber] at h
  split at h
  · cases h
  · rename_i last behind hdrop
    split_ifs at h
    cases h
    have hlength := congrArg List.length hdrop
    rw [List.length_drop, List.length_cons] at hlength
    omega

theorem length_of_afterTag? (h : afterTag? bytes = some rest) : rest.length ≤ bytes.length := by
  cases bytes with
  | nil => cases h
  | cons first behind =>
      rw [afterTag?] at h
      split_ifs at h with hlong
      · split at h
        · rename_i number other hnumber
          split_ifs at h
          cases h
          exact (length_of_readNumber hnumber).trans (Nat.le_succ _)
        · cases h
      · cases h
        exact Nat.le_succ _

theorem length_of_readLength {length : Nat} (h : readLength bytes = some (length, rest)) :
    rest.length ≤ bytes.length := by
  cases bytes with
  | nil => cases h
  | cons first behind =>
      simp only [readLength] at h
      split_ifs at h with hshort hwritten
      · cases h
        exact Nat.le_succ _
      · obtain ⟨-, rfl⟩ := Prod.mk.inj (Option.some.inj h)
        rw [List.length_drop, List.length_cons]
        omega

/-- The content of an element and what follows the element stand in what is read. -/
theorem length_of_readElement (h : readElement bytes = some (element, rest)) :
    element.content.length ≤ bytes.length ∧ rest.length ≤ bytes.length := by
  simp only [readElement, Option.bind_eq_bind, Option.bind_eq_some_iff, Prod.exists] at h
  obtain ⟨tag, -, length, behind, ⟨after, hafter, hlength⟩, hfits⟩ := h
  have hbehind : behind.length ≤ bytes.length :=
    (length_of_readLength hlength).trans (length_of_afterTag? hafter)
  split_ifs at hfits
  cases hfits
  rw [List.length_take, List.length_drop]
  exact ⟨by omega, by omega⟩

theorem length_of_mem_readElements {fuel : Nat} {elements : List Element}
    (h : readElements fuel bytes = some elements) (hmem : element ∈ elements) :
    element.content.length ≤ bytes.length := by
  induction fuel generalizing bytes elements with
  | zero =>
      cases bytes with
      | nil =>
          cases h
          cases hmem
      | cons first behind => cases h
  | succ fuel ih =>
      cases bytes with
      | nil =>
          cases h
          cases hmem
      | cons first behind =>
          simp only [readElements, Option.bind_eq_bind, Option.bind_eq_some_iff, Prod.exists,
            Option.some.injEq] at h
          obtain ⟨read, rest, hread, others, hothers, rfl⟩ := h
          obtain ⟨hcontent, hrest⟩ := length_of_readElement hread
          rcases List.mem_cons.mp hmem with rfl | hlater
          · exact hcontent
          · exact (ih hothers hlater).trans hrest

theorem length_of_element? (h : element? bytes = some element) :
    element.content.length ≤ bytes.length := by
  rw [element?] at h
  split at h
  · rename_i only hread
    cases h
    exact length_of_mem_readElements hread (List.mem_singleton_self _)
  · cases h

theorem Element.content_of_contentOf? {wanted : Byte} {content : Bytes}
    (h : element.contentOf? wanted = some content) : element.content = content := by
  rw [contentOf?] at h
  split_ifs at h
  exact Option.some.inj h

/-- The parts of a sequence stand in its bytes. -/
theorem length_of_mem_sequence? {parts : List Element} (h : sequence? bytes = some parts)
    (hmem : part ∈ parts) : part.content.length ≤ bytes.length := by
  simp only [sequence?, Element.parts?, Option.bind_eq_bind, Option.bind_eq_some_iff] at h
  obtain ⟨whole, hwhole, content, hcontent, hparts⟩ := h
  calc part.content.length
      ≤ content.length := length_of_mem_readElements hparts hmem
    _ = whole.content.length := by rw [Element.content_of_contentOf? hcontent]
    _ ≤ bytes.length := length_of_element? hwhole

theorem Element.natural?_lt {number : Nat} (h : element.natural? = some number) :
    number < 256 ^ element.content.length := by
  simp only [natural?, Option.bind_eq_bind, Option.bind_eq_some_iff] at h
  obtain ⟨content, hcontent, hnumber⟩ := h
  rw [content_of_contentOf? hcontent]
  split at hnumber
  · cases hnumber
  · rename_i only
    split_ifs at hnumber
    cases hnumber
    exact only.toNat_lt
  · split_ifs at hnumber
    cases hnumber
    exact Bytes.toNat_lt _

theorem Element.length_of_bits? {content : Bytes} (h : element.bits? = some content) :
    content.length ≤ element.content.length := by
  simp only [bits?, Option.bind_eq_bind, Option.bind_eq_some_iff] at h
  obtain ⟨whole, hwhole, hcontent⟩ := h
  rw [content_of_contentOf? hwhole]
  split at hcontent
  · cases hcontent
  · split_ifs at hcontent
    cases hcontent
    exact Nat.le_succ _

/-- The numbers of a sequence are no longer than its bytes. -/
theorem naturals?_lt {numbers : List Nat} (h : naturals? bytes = some numbers) :
    ∀ number ∈ numbers, number < 256 ^ bytes.length := by
  intro number hnumber
  simp only [naturals?, Option.bind_eq_bind, Option.bind_eq_some_iff] at h
  obtain ⟨parts, hparts, hnumbers⟩ := h
  obtain ⟨part, hpart, hread⟩ := Pem.exists_of_mem_mapM hnumbers hnumber
  calc number
      < 256 ^ part.content.length := Element.natural?_lt hread
    _ ≤ 256 ^ bytes.length :=
      Nat.pow_le_pow_right (by decide) (length_of_mem_sequence? hparts hpart)

end Der

/-! ## Blocks -/

theorem Base64.length_le_toSextets (bytes : Bytes) : bytes.length ≤ (toSextets bytes).length := by
  induction bytes using toSextets.induct with
  | case1 => exact le_rfl
  | case2 a => simp [toSextets]
  | case3 a b => simp [toSextets]
  | case4 a b c rest ih =>
      simp only [toSextets, List.length_cons]
      omega

theorem Base64.Lines.length_le_encode (bytes : Bytes) : bytes.length ≤ (encode bytes).length := by
  have hsextets := Base64.length_le_toSextets bytes
  rw [encode, List.length_append, List.length_map]
  omega

/-- A character takes at least one byte. -/
theorem Utf8.length_toList_le (text : String) : text.toList.length ≤ (encode text).length := by
  rw [encode_eq_flatMap]
  induction text.toList with
  | nil => exact le_rfl
  | cons char rest ih =>
      have hpos : 0 < (String.utf8EncodeChar char).length := by
        rw [String.length_utf8EncodeChar]
        exact char.utf8Size_pos
      rw [List.flatMap_cons, List.length_append, List.length_cons]
      omega

namespace Pem

variable {raw : Raw} {block : Pem} {file : Bytes}

/-- What base64 stands for is no longer than the base64. -/
theorem length_content_of_ofRaw? (h : ofRaw? raw = some block) :
    block.content.length ≤ raw.body.length := by
  obtain ⟨-, -, text, hbody, hdecode⟩ := ofRaw?_eq_some h
  have hcode : (splitHeaders text.toList).2.length ≤ text.toList.length := by
    rcases splitHeaders_cases (rfl : (splitHeaders text.toList).2 = _) with hall | ⟨lead, hlead⟩
    · exact (congrArg List.length hall).ge
    · have hlength := congrArg List.length hlead
      rw [List.length_append] at hlength
      omega
  calc block.content.length
      ≤ (Base64.Lines.encode block.content).length := Base64.Lines.length_le_encode _
    _ = ((splitHeaders text.toList).2.filter (!Blank.isWhiteSpace ·)).length := by
      rw [Base64.Lines.encode_of_decode hdecode]
    _ ≤ (splitHeaders text.toList).2.length := List.length_filter_le _ _
    _ ≤ text.toList.length := hcode
    _ ≤ raw.body.length := hbody ▸ Utf8.length_toList_le text

theorem Raw.StandsIn.length_body_le (h : raw.StandsIn file) : raw.body.length ≤ file.length := by
  obtain ⟨before, blanks, after, -, rfl⟩ := h
  simp only [Raw.spelled, List.length_append]
  omega

/-- The content of a block is no longer than the file that the block stands in. -/
theorem length_content_le (hstands : raw.StandsIn file) (h : ofRaw? raw = some block) :
    block.content.length ≤ file.length :=
  (length_content_of_ofRaw? h).trans hstands.length_body_le

end Pem

/-! ## Keys -/

/-- The numbers of a private key, as they are written. -/
def Rsa.Parts.numbers (parts : Parts) : List Nat :=
  [parts.modulus, parts.exponent, parts.secret, parts.first, parts.second, parts.firstSecret,
    parts.secondSecret, parts.coefficient]

namespace Key

variable {bytes file : Bytes}

theorem numbers_lt_of_rsaPrivate? {key : Rsa.PrivateKey} (h : rsaPrivate? bytes = some key) :
    ∀ number ∈ key.parts.numbers, number < 256 ^ bytes.length := by
  simp only [rsaPrivate?, Option.bind_eq_bind, Option.bind_eq_some_iff] at h
  obtain ⟨numbers, hnumbers, hkey⟩ := h
  split at hkey
  · rw [Rsa.PrivateKey.make?] at hkey
    split_ifs at hkey
    cases hkey
    exact fun number hnumber => Der.naturals?_lt hnumbers number (List.mem_cons_of_mem _ hnumber)
  · cases hkey

/-- The numbers of a public key are no longer than its bytes, and its exponent is below the
modulus. -/
theorem numbers_lt_of_rsaPublic? {key : Rsa.PublicKey} (h : rsaPublic? bytes = some key) :
    key.modulus < 256 ^ bytes.length ∧ key.exponent < 256 ^ bytes.length ∧
      key.exponent < key.modulus := by
  simp only [rsaPublic?, Option.bind_eq_bind, Option.bind_eq_some_iff] at h
  obtain ⟨numbers, hnumbers, hkey⟩ := h
  split at hkey
  · rw [Rsa.PublicKey.make?] at hkey
    split_ifs at hkey with hbelow hsound
    cases hkey
    exact ⟨Der.naturals?_lt hnumbers _ (by simp), Der.naturals?_lt hnumbers _ (by simp), hbelow⟩
  · cases hkey

/-- Numbers of a key that is read from a part of some bytes are no longer than these. -/
theorem lt_pow_of_le {number width : Nat} (h : number < 256 ^ width) {wider : Nat}
    (hwider : width ≤ wider) : number < 256 ^ wider :=
  h.trans_le (Nat.pow_le_pow_right (by decide) hwider)

theorem rsaPrivate?_of_privateOfKind? {identifier content : Bytes} {parameters : List Der.Element}
    {key : Rsa.PrivateKey} (h : privateOfKind? identifier parameters content = some (.rsa key)) :
    rsaPrivate? content = some key := by
  unfold privateOfKind? at h
  by_cases hrsa : isRsa identifier parameters = true
  · rw [if_pos hrsa, Option.map_eq_some_iff] at h
    obtain ⟨read, hread, hkey⟩ := h
    cases hkey
    exact hread
  · rw [if_neg hrsa] at h
    by_cases hcurve : identifier = curveIdentifier
    · rw [if_pos hcurve] at h
      split at h
      · obtain ⟨read, -, hkey⟩ := Option.map_eq_some_iff.mp h
        cases hkey
      · cases h
    · rw [if_neg hcurve, Option.map_eq_some_iff] at h
      obtain ⟨read, -, hkey⟩ := h
      cases hkey

theorem rsaPublic?_of_publicOfKind? {identifier content : Bytes} {parameters : List Der.Element}
    {key : Rsa.PublicKey} (h : publicOfKind? identifier parameters content = some (.rsa key)) :
    rsaPublic? content = some key := by
  unfold publicOfKind? at h
  by_cases hrsa : isRsa identifier parameters = true
  · rw [if_pos hrsa, Option.map_eq_some_iff] at h
    obtain ⟨read, hread, hkey⟩ := h
    cases hkey
    exact hread
  · rw [if_neg hrsa] at h
    by_cases hcurve : identifier = curveIdentifier
    · rw [if_pos hcurve] at h
      split at h
      · simp only [Option.bind_eq_bind, Option.bind_eq_some_iff, Option.map_eq_some_iff] at h
        obtain ⟨curve, -, point, -, read, -, hkey⟩ := h
        cases hkey
      · cases h
    · rw [if_neg hcurve, Option.map_eq_some_iff] at h
      obtain ⟨read, -, hkey⟩ := h
      cases hkey

/-- What is read by its kind is read from a byte string with an identifier and parameters. -/
theorem exists_of_withKind? {α : Type} {element : Der.Element} {result : α}
    {read : Bytes → List Der.Element → Option α} (h : withKind? element read = some result) :
    ∃ identifier parameters, read identifier parameters = some result := by
  simp only [withKind?, Option.bind_eq_bind, Option.bind_eq_some_iff] at h
  obtain ⟨parts, -, hparts⟩ := h
  split at hparts
  · obtain ⟨identifier, -, hread⟩ := Option.bind_eq_some_iff.mp hparts
    exact ⟨identifier, _, hread⟩
  · cases hparts

/-- A private key in the general form is read from a part of its bytes. -/
theorem exists_rsaPrivate?_of_general {key : Rsa.PrivateKey}
    (h : generalPrivate? bytes = some (.rsa key)) :
    ∃ content : Bytes, content.length ≤ bytes.length ∧ rsaPrivate? content = some key := by
  simp only [generalPrivate?, Option.bind_eq_bind, Option.bind_eq_some_iff] at h
  obtain ⟨parts, hparts, hkey⟩ := h
  split at hkey
  · rename_i version kind element attributes
    split_ifs at hkey
    obtain ⟨content, hcontent, hkind⟩ := Option.bind_eq_some_iff.mp hkey
    obtain ⟨identifier, parameters, hread⟩ := exists_of_withKind? hkind
    refine ⟨content, ?_, rsaPrivate?_of_privateOfKind? hread⟩
    rw [← Der.Element.content_of_contentOf? hcontent]
    exact Der.length_of_mem_sequence? hparts (by simp)
  · cases hkey

theorem exists_rsaPublic?_of_general {key : Rsa.PublicKey}
    (h : generalPublic? bytes = some (.rsa key)) :
    ∃ content : Bytes, content.length ≤ bytes.length ∧ rsaPublic? content = some key := by
  simp only [generalPublic?, Option.bind_eq_bind, Option.bind_eq_some_iff] at h
  obtain ⟨parts, hparts, hkey⟩ := h
  split at hkey
  · rename_i kind element
    obtain ⟨content, hcontent, hkind⟩ := Option.bind_eq_some_iff.mp hkey
    obtain ⟨identifier, parameters, hread⟩ := exists_of_withKind? hkind
    refine ⟨content, ?_, rsaPublic?_of_publicOfKind? hread⟩
    calc content.length
        ≤ element.content.length := Der.Element.length_of_bits? hcontent
      _ ≤ bytes.length := Der.length_of_mem_sequence? hparts (by simp)
  · cases hkey

/-! ## Keys of a file -/

theorem numbers_lt_of_privateOfBlock? {block : Pem} {key : Rsa.PrivateKey}
    (h : privateOfBlock? block = some (.rsa key)) :
    ∀ number ∈ key.parts.numbers, number < 256 ^ block.content.length := by
  intro number hnumber
  rw [privateOfBlock?] at h
  split_ifs at h with hencrypted hgeneral hrsa hcurve hdsa
  · obtain ⟨content, hlength, hread⟩ := exists_rsaPrivate?_of_general h
    exact lt_pow_of_le (numbers_lt_of_rsaPrivate? hread number hnumber) hlength
  · obtain ⟨read, hread, hkey⟩ := Option.map_eq_some_iff.mp h
    cases hkey
    exact numbers_lt_of_rsaPrivate? hread number hnumber
  · obtain ⟨read, -, hkey⟩ := Option.map_eq_some_iff.mp h
    cases hkey
  · cases h

/-- No number of a private key is longer than the file of the key. -/
theorem numbers_lt_of_privateOfPem? {key : Rsa.PrivateKey}
    (h : privateOfPem? file = some (.rsa key)) :
    ∀ number ∈ key.parts.numbers, number < 256 ^ file.length := by
  intro number hnumber
  simp only [privateOfPem?, Option.bind_eq_bind, Option.bind_eq_some_iff] at h
  obtain ⟨blocks, hblocks, block, hfound, hkey⟩ := h
  obtain ⟨raw, hstands, hread⟩ := Pem.exists_raw_of_mem hblocks (List.mem_of_find?_eq_some hfound)
  exact lt_pow_of_le (numbers_lt_of_privateOfBlock? hkey number hnumber)
    (Pem.length_content_le hstands hread)

theorem exists_rsaPublic?_of_der {key : Rsa.PublicKey} (h : publicOfDer? bytes = some (.rsa key)) :
    ∃ content : Bytes, content.length ≤ bytes.length ∧ rsaPublic? content = some key := by
  rw [publicOfDer?, Option.or_eq_some_iff] at h
  rcases h with hgeneral | ⟨-, hplain⟩
  · exact exists_rsaPublic?_of_general hgeneral
  · obtain ⟨read, hread, hkey⟩ := Option.map_eq_some_iff.mp hplain
    cases hkey
    exact ⟨bytes, le_rfl, hread⟩

/-- A public key is read from a part of its file. -/
theorem exists_rsaPublic?_of_pem {key : Rsa.PublicKey} (h : publicOfPem? file = some (.rsa key)) :
    ∃ content : Bytes, content.length ≤ file.length ∧ rsaPublic? content = some key := by
  simp only [publicOfPem?, Pem.decode, Option.bind_eq_bind, Option.bind_eq_some_iff,
    Prod.exists] at h
  obtain ⟨block, ⟨raw, rest, hfirst, hread⟩, hkey⟩ := h
  have hcontent : ∃ content : Bytes,
      content.length ≤ block.content.length ∧ rsaPublic? content = some key := by
    split_ifs at hkey with hpublic hrsa
    · exact exists_rsaPublic?_of_general hkey
    · split at hkey
      · rename_i read hder
        cases hkey
        exact exists_rsaPublic?_of_der hder
      · cases hkey
  obtain ⟨content, hlength, hnumbers⟩ := hcontent
  have hfile := Pem.length_content_le (Pem.Raw.standsIn_of_first? hfirst) hread
  exact ⟨content, hlength.trans hfile, hnumbers⟩

theorem numbers_lt_of_publicOfPem? {key : Rsa.PublicKey}
    (h : publicOfPem? file = some (.rsa key)) :
    key.modulus < 256 ^ file.length ∧ key.exponent < 256 ^ file.length := by
  obtain ⟨content, hlength, hread⟩ := exists_rsaPublic?_of_pem h
  obtain ⟨hmodulus, hexponent, -⟩ := numbers_lt_of_rsaPublic? hread
  exact ⟨lt_pow_of_le hmodulus hlength, lt_pow_of_le hexponent hlength⟩

/-- The reader of public keys asks for an exponent below the modulus. -/
theorem exponent_lt_of_publicOfPem? {key : Rsa.PublicKey}
    (h : publicOfPem? file = some (.rsa key)) : key.exponent < key.modulus := by
  obtain ⟨content, -, hread⟩ := exists_rsaPublic?_of_pem h
  exact (numbers_lt_of_rsaPublic? hread).2.2

end Key

end SignedToken
