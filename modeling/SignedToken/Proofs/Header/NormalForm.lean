import SignedToken.Proofs.Header.Documented
import SignedToken.Proofs.Header.RoundTrip

/-!
# Normal forms of headers

A header may be spelled by many segments, with blanks, escapes, nulls, repeated
and unknown members.  One of them is what is written of the header, and this one
is told from the header alone.  So segments hold the same header exactly if their
headers are written as the same segment.  Only a header with a lone surrogate in
one of its texts has no segment at all, and no segment holds such a header.
-/

namespace SignedToken

theorem Segment.exists_ofJson_of_readClaims {bytes : Bytes} {value : Value}
    (h : readClaims .any bytes = .ok value) : ∃ document, value = .ofJson document := by
  rw [readClaims] at h
  split at h
  · cases h
  · rename_i document _
    cases h
    exact ⟨document, rfl⟩

namespace Header

/-- Whether a header declares an algorithm that is enabled, or that the token is not signed. -/
def Declarable (registry : Registry) (header : Header) : Prop :=
  ∀ algorithm, header.algorithm = some algorithm → registry.enabled algorithm = true

/-- The segment that is written of the header in a segment. -/
def normalize? (registry : Registry) (segment : Text) : Option String :=
  (decode registry segment).toOption.bind fun header => header.encode.toOption

variable {registry : Registry} {segment : Text} {header other : Header}

/-! ## Headers in segments -/

/-- A header that a segment may hold. -/
structure Spellable (registry : Registry) (header : Header) : Prop where
  declarable : header.Declarable registry
  writable : header.Writable

/-- A shape names its algorithm, and no name is that of an algorithm that is not enabled. -/
theorem declarable_of_ofShape {shape : Shape} (h : ofShape registry shape = .ok header) :
    header.Declarable registry := by
  intro algorithm halgorithm
  obtain ⟨-, hdeclares⟩ := ofShape_eq_ok_iff.mp h
  rw [halgorithm] at hdeclares
  exact hdeclares.1

private theorem exists_given_of_tells {α β : Type} {write : α → Json} {mean : α → β}
    {found : Option Json} {content : Option β} (h : Json.Tells write mean found content) :
    ∀ meaning ∈ content, ∃ given, meaning = mean given := by
  rintro meaning rfl
  cases h with
  | set given => exact ⟨given, rfl⟩

/-- The texts of a document are texts of characters. -/
theorem Outlines.writable {members : List (String × Json)} {name : Text}
    (h : Outlines members ⟨name, header.keyId, header.mediaType, header.critical⟩) :
    header.Writable := by
  intro text htext
  simp only [texts, List.mem_append, Option.mem_toList] at htext
  obtain (hkeyId | hmediaType) | hname := htext
  · exact exists_given_of_tells h.keyId text hkeyId
  · exact exists_given_of_tells h.mediaType text hmediaType
  · cases hcritical : header.critical with
    | none => simp [hcritical] at hname
    | some names =>
        obtain ⟨given, rfl⟩ := exists_given_of_tells h.critical names hcritical
        rw [hcritical, Option.getD_some] at hname
        obtain ⟨chars, -, rfl⟩ := List.mem_map.mp hname
        exact ⟨chars, rfl⟩

/-- What a document describes is spellable, because all its texts come from a document.
-/
theorem spellable_of_ofValue {document : Json}
    (h : ofValue registry (.ofJson document) = .ok header) : header.Spellable registry := by
  rw [ofValue] at h
  split at h
  · rename_i shape hshape
    obtain ⟨members, -, houtlines⟩ := checkShape_ofJson_eq_ok_iff.mp hshape
    obtain ⟨hparts, -⟩ := ofShape_eq_ok_iff.mp h
    exact ⟨declarable_of_ofShape h, (hparts ▸ houtlines).writable⟩
  · cases h

theorem spellable_of_decode (h : decode registry segment = .ok header) :
    header.Spellable registry := by
  obtain ⟨bytes, document, -, -, hvalue⟩ := exists_document_of_decode h
  exact spellable_of_ofValue hvalue

theorem spellable_of_decodeBytes {spelling : Bytes}
    (h : decodeBytes registry spelling = .ok header) : header.Spellable registry := by
  rw [decodeBytes, Segment.decodeBytes] at h
  cases hspelling : Base64.Url.decodeBytes spelling with
  | error failure =>
      rw [hspelling] at h
      cases h
  | ok bytes =>
      simp only [hspelling] at h
      split at h
      · rename_i value hvalue
        obtain ⟨document, rfl⟩ := Segment.exists_ofJson_of_readClaims hvalue
        exact spellable_of_ofValue h
      · cases h

/-! ## Normal forms -/

theorem normalize?_of_decode (h : decode registry segment = .ok header) :
    normalize? registry segment = header.encode.toOption := by
  rw [normalize?, h]
  rfl

/-- The segment of a header is read as this header only. -/
theorem encode_eq_encode_iff (hheader : header.Spellable registry)
    (hother : other.Spellable registry) : header.encode = other.encode ↔ header = other := by
  refine ⟨fun hsame => ?_, fun hsame => hsame ▸ rfl⟩
  obtain ⟨segment, hencode, hdecode⟩ := decode_encode hheader.writable hheader.declarable
  obtain ⟨otherSegment, hotherEncode, hotherDecode⟩ :=
    decode_encode hother.writable hother.declarable
  have hsegments : segment = otherSegment := by
    apply Except.ok.inj
    rw [← hencode, ← hotherEncode, hsame]
  subst hsegments
  exact Except.ok.inj (hdecode.symm.trans hotherDecode)

/-- What is written of a header that was read is a segment in normal form. -/
theorem exists_normal (h : header.Spellable registry) :
    ∃ normal : String, header.encode = .ok normal ∧ decode registry normal = .ok header ∧
      normalize? registry normal = some normal := by
  obtain ⟨normal, hencode, hdecode⟩ := decode_encode h.writable h.declarable
  refine ⟨normal, hencode, hdecode, ?_⟩
  rw [normalize?_of_decode hdecode, hencode]
  rfl

/-- A header whose algorithm can be declared is read back from its segment, whichever of its other
members are set, be it to an empty text or an empty list; if a lone surrogate stands in one of its
texts, it has no segment, and writing it fails as it does for every value that cannot be written.
The segment that is written of a header that was read holds the same header and is its own normal
form, and segments hold the same header exactly if they have the same normal form. -/
theorem one_normal_segment (registry : Registry) :
    (∀ header : Header, header.Declarable registry → header.Writable →
      ∃ segment : String, header.encode = .ok segment ∧ decode registry segment = .ok header) ∧
    (∀ header : Header, ¬header.Writable →
      ∃ failure, header.encode = .error failure ∧ failure.kind = .encodeError) ∧
    (∀ segment header, decode registry segment = .ok header →
      ∃ normal : String, header.encode = .ok normal ∧ decode registry normal = .ok header ∧
        normalize? registry segment = some normal ∧
        normalize? registry normal = some normal) ∧
    (∀ spelling header, decodeBytes registry spelling = .ok header →
      ∃ normal : String, header.encode = .ok normal ∧ decode registry normal = .ok header ∧
        normalize? registry normal = some normal) ∧
    (∀ segment otherSegment header other, decode registry segment = .ok header →
      decode registry otherSegment = .ok other →
      (header = other ↔ normalize? registry segment = normalize? registry otherSegment)) := by
  refine ⟨fun header hdeclarable hwritable => decode_encode hwritable hdeclarable,
    fun header hbroken => ⟨_, encode_of_not_writable hbroken, rfl⟩, ?_, ?_, ?_⟩
  · intro segment header hdecode
    obtain ⟨normal, hencode, hagain, hnormal⟩ := exists_normal (spellable_of_decode hdecode)
    refine ⟨normal, hencode, hagain, ?_, hnormal⟩
    rw [normalize?_of_decode hdecode, hencode]
    rfl
  · intro spelling header hdecode
    exact exists_normal (spellable_of_decodeBytes hdecode)
  · intro segment otherSegment header other hdecode hother
    obtain ⟨normal, hencode, -⟩ := exists_normal (spellable_of_decode hdecode)
    obtain ⟨otherNormal, hotherEncode, -⟩ := exists_normal (spellable_of_decode hother)
    rw [normalize?_of_decode hdecode, normalize?_of_decode hother,
      ← encode_eq_encode_iff (spellable_of_decode hdecode) (spellable_of_decode hother),
      hencode, hotherEncode]
    simp [Except.toOption]

/-- A key id of one lone surrogate can be set, but not be written. -/
theorem not_every_header_read_back :
    ¬∀ (registry : Registry) (header : Header), header.Declarable registry →
      ∃ segment : String,
        header.encode = .ok segment ∧ decode registry segment = .ok header := by
  intro hall
  obtain ⟨segment, hencode, -⟩ :=
    hall ⟨true, ⟨""⟩⟩ ⟨some ⟨.hmac, .sha256⟩, some ⟨[.surrogate 0]⟩, none, none⟩ (by
      rintro algorithm halgorithm
      cases halgorithm
      decide)
  cases hencode

/-- An object with blanks, an unknown member, a repeated name that is escaped once, a null, an empty
list and an empty text. -/
private def loose : String :=
  "IHsgInR5cCI6bnVsbCwiYWxnIjoxLCJ4Ijp7ImtpZCI6ImEifSwiY3JpdCI6W10gLCJraWQiOiIiLCJcdTAwNjFsZyI6" ++
    "IkhTMjU2In0g"

/-- The same header as it is written. -/
private def tight : String := "eyJhbGciOiJIUzI1NiIsImtpZCI6IiIsImNyaXQiOltdfQ"

private def looseHeader : Header := ⟨some ⟨.hmac, .sha256⟩, some "", none, some []⟩

/-- Headers can be compared, so what a segment is read as can be found out. -/
private theorem eq_of_toOption {outcome : Except DecodeFailure Header} {header : Header}
    (h : outcome.toOption = some header) : outcome = .ok header := by
  cases outcome with
  | error failure => cases h
  | ok found => exact congrArg Except.ok (Option.some.inj h)

theorem one_normal_segment_of_loose :
    looseHeader.Declarable ⟨true, ⟨"HS512"⟩⟩ ∧ looseHeader.Writable ∧
      decode ⟨true, ⟨"HS512"⟩⟩ loose = .ok looseHeader ∧
      decodeBytes ⟨true, ⟨"HS512"⟩⟩ (Bytes.ofAscii loose) = .ok looseHeader ∧
      decode ⟨true, ⟨"HS512"⟩⟩ tight = .ok looseHeader ∧
      looseHeader.encode = .ok tight ∧
      normalize? ⟨true, ⟨"HS512"⟩⟩ loose = some tight ∧
      normalize? ⟨true, ⟨"HS512"⟩⟩ tight = some tight ∧
      normalize? ⟨true, ⟨"HS512"⟩⟩ loose = normalize? ⟨true, ⟨"HS512"⟩⟩ tight := by
  obtain ⟨hwritten, -, hread, hbytes, hsame⟩ := one_normal_segment ⟨true, ⟨"HS512"⟩⟩
  have hdeclarable : looseHeader.Declarable ⟨true, ⟨"HS512"⟩⟩ := by
    rintro algorithm halgorithm
    cases halgorithm
    decide
  have hwritable : looseHeader.Writable := by
    intro text htext
    obtain rfl := List.mem_singleton.mp htext
    exact ⟨"", rfl⟩
  have hloose : decode ⟨true, ⟨"HS512"⟩⟩ loose = .ok looseHeader := by
    apply eq_of_toOption
    decide +kernel
  have hspelling : decodeBytes ⟨true, ⟨"HS512"⟩⟩ (Bytes.ofAscii loose) = .ok looseHeader := by
    apply eq_of_toOption
    decide +kernel
  have hencode : looseHeader.encode = .ok tight := rfl
  have htight (segment : String) (h : looseHeader.encode = .ok segment) : segment = tight :=
    Except.ok.inj (h.symm.trans hencode)
  obtain ⟨written, hsegment, hagain⟩ := hwritten looseHeader hdeclarable hwritable
  obtain rfl := htight written hsegment
  obtain ⟨normal, hnormal, -, hform, -⟩ := hread _ _ hloose
  obtain rfl := htight normal hnormal
  obtain ⟨fromBytes, hfromBytes, -, htwice⟩ := hbytes _ _ hspelling
  obtain rfl := htight fromBytes hfromBytes
  exact ⟨hdeclarable, hwritable, hloose, hspelling, hagain, hencode, hform, htwice,
    (hsame _ _ _ _ hloose hagain).mp rfl⟩

end Header

end SignedToken
