import SignedToken.Proofs.Base64.Spelling
import SignedToken.Proofs.Claims.Member
import SignedToken.Proofs.Header.Shape
import SignedToken.Proofs.Registry.Listing

/-!
# Documented headers

A segment is read as a header in four steps: its bytes, their document, the shape
of the document and the algorithm that the shape names.  The segments that pass
all four are described here by what their documents say, and a segment that fails
is told the first step at which it does.
-/

namespace SignedToken

namespace Json

/-- What the value of a member says that may be missing or null: what is written in the document
means something. -/
inductive Tells {α β : Type} (write : α → Json) (mean : α → β) : Option Json → Option β → Prop where
  | missing : Tells write mean none none
  | null : Tells write mean (some .null) none
  | set (content : α) : Tells write mean (some (write content)) (some (mean content))

/-- Texts as an array. -/
def textArray (names : List String) : Json := .array (names.map .text)

end Json

/-! ## Documents and their values -/

namespace Value

variable {document : Json}

theorem ofJson_eq_null_iff : ofJson document = .null ↔ document = .null := by
  cases document <;> simp [ofJson]

theorem ofJson_eq_text_iff {content : Text} :
    ofJson document = .text content ↔
      ∃ given : String, document = .text given ∧ content = given := by
  cases document <;> simp [ofJson, eq_comm]

private theorem map_ofJson_eq_texts_iff {items : List Json} {names : List Text} :
    items.map ofJson = names.map .text ↔
      ∃ given : List String, items = given.map .text ∧ names = given.map .ofString := by
  induction items generalizing names with
  | nil => cases names <;> simp
  | cons item rest ih =>
      cases names with
      | nil => simp
      | cons name others =>
          rw [List.map_cons, List.map_cons, List.cons.injEq, ofJson_eq_text_iff, ih]
          constructor
          · rintro ⟨⟨first, rfl, rfl⟩, given, rfl, rfl⟩
            exact ⟨first :: given, rfl, rfl⟩
          · rintro ⟨_ | ⟨first, given⟩, hitems, hnames⟩
            · cases hitems
            · cases hitems
              cases hnames
              exact ⟨⟨first, rfl, rfl⟩, given, rfl, rfl⟩

theorem ofJson_eq_textList_iff {names : List Text} :
    ofJson document = Header.textList names ↔
      ∃ given : List String, document = Json.textArray given ∧ names = given.map .ofString := by
  cases document with
  | array items =>
      simp [ofJson, ofItems_eq_map, Header.textList, Json.textArray, map_ofJson_eq_texts_iff]
  | _ => simp [ofJson, Header.textList, Json.textArray]

end Value

namespace Header

/-- Values say what their documents tell, as long as they show what was written. -/
theorem says_map_ofJson_iff {α β : Type} {toValue : β → Value} {write : α → Json} {mean : α → β}
    (hwrite : ∀ document content, Value.ofJson document = toValue content ↔
      ∃ given, document = write given ∧ content = mean given)
    {found : Option Json} {content : Option β} :
    Says toValue (found.map Value.ofJson) content ↔ Json.Tells write mean found content := by
  constructor
  · intro h
    generalize hvalue : found.map Value.ofJson = value at h
    cases h with
    | missing =>
        rw [Option.map_eq_none_iff.mp hvalue]
        exact .missing
    | null =>
        obtain ⟨document, rfl, hnull⟩ := Option.map_eq_some_iff.mp hvalue
        rw [Value.ofJson_eq_null_iff.mp hnull]
        exact .null
    | set content =>
        obtain ⟨document, rfl, hset⟩ := Option.map_eq_some_iff.mp hvalue
        obtain ⟨given, rfl, rfl⟩ := (hwrite document content).mp hset
        exact .set given
  · intro h
    cases h with
    | missing => exact .missing
    | null =>
        rw [Option.map_some, Value.ofJson_eq_null_iff.mpr rfl]
        exact .null
    | set given =>
        rw [Option.map_some, (hwrite _ (mean given)).mpr ⟨given, rfl, rfl⟩]
        exact .set (mean given)

/-- The members of an object that describes a header of this shape: the last `alg` is a text, and
the last `kid`, `typ` and `crit` are texts and an array of texts if they are there and not null. -/
structure Outlines (members : List (String × Json)) (shape : Shape) : Prop where
  algorithm : ∃ name : String,
    Json.last? "alg" members = some (.text name) ∧ shape.algorithm = name
  keyId : Json.Tells .text Text.ofString (Json.last? "kid" members) shape.keyId
  mediaType : Json.Tells .text Text.ofString (Json.last? "typ" members) shape.mediaType
  critical :
    Json.Tells Json.textArray (List.map Text.ofString) (Json.last? "crit" members) shape.critical

variable {members others : List (String × Json)} {document : Json} {shape : Shape}

theorem describes_iff_outlines {entries : List (Value × Value)}
    (hentries : ∀ name, member? name entries = (Json.last? name members).map Value.ofJson) :
    Describes entries shape ↔ Outlines members shape := by
  have hname : member? "alg" entries = some (.text shape.algorithm) ↔
      ∃ name : String, Json.last? "alg" members = some (.text name) ∧ shape.algorithm = name := by
    rw [hentries, Option.map_eq_some_iff]
    simp only [Value.ofJson_eq_text_iff]
    constructor
    · rintro ⟨_, halgorithm, name, rfl, hname⟩
      exact ⟨name, halgorithm, hname⟩
    · rintro ⟨name, halgorithm, hname⟩
      exact ⟨_, halgorithm, name, rfl, hname⟩
  have htext (name : String) (content : Option Text) :
      Says .text (member? name entries) content ↔
        Json.Tells .text Text.ofString (Json.last? name members) content := by
    rw [hentries]
    exact says_map_ofJson_iff fun _ _ => Value.ofJson_eq_text_iff
  have htexts : Says textList (member? "crit" entries) shape.critical ↔
      Json.Tells Json.textArray (List.map Text.ofString) (Json.last? "crit" members)
        shape.critical := by
    rw [hentries]
    exact says_map_ofJson_iff fun _ _ => Value.ofJson_eq_textList_iff
  constructor
  · rintro ⟨halgorithm, hkeyId, hmediaType, hcritical⟩
    exact ⟨hname.mp halgorithm, (htext _ _).mp hkeyId, (htext _ _).mp hmediaType,
      htexts.mp hcritical⟩
  · rintro ⟨halgorithm, hkeyId, hmediaType, hcritical⟩
    exact ⟨hname.mpr halgorithm, (htext _ _).mpr hkeyId, (htext _ _).mpr hmediaType,
      htexts.mpr hcritical⟩

/-- The documents of a shape are the objects whose members outline it. -/
theorem checkShape_ofJson_eq_ok_iff :
    checkShape (.ofJson document) = .ok shape ↔
      ∃ members, document = .object members ∧ Outlines members shape := by
  cases document with
  | object members =>
      obtain ⟨entries, hvalue, hentries⟩ := Value.exists_entries_of_object members
      rw [hvalue, checkShape_dict_eq_ok_iff, describes_iff_outlines hentries]
      simp
  | _ => simp [Value.ofJson, checkShape, Checked.fail]

end Header

/-! ## Declarations -/

namespace Registry

/-- Whether a name declares this: `none` that a token is not signed, and the exact name of an
enabled algorithm that it is signed with it. -/
def Declares (registry : Registry) (name : Text) : Declared → Prop
  | none => name = "none"
  | some algorithm => registry.enabled algorithm = true ∧ name = algorithm.name

theorem declared?_eq_some_iff_declares {registry : Registry} {name : Text}
    {declared : Declared} :
    registry.declared? name = some declared ↔ registry.Declares name declared := by
  by_cases hname : name = Declared.unsignedName
  · subst hname
    cases declared with
    | none => simp [declared?, Declares, Declared.unsignedName]
    | some algorithm => simp [declared?, Declares, algorithm.name_ne_unsignedName.symm]
  · cases declared with
    | none =>
        rw [declared?_eq_some_iff hname]
        exact iff_of_false (by simp) hname
    | some algorithm =>
        rw [declared?_eq_some_iff hname]
        simp [Declares, recognize_text_eq_ok_iff, and_comm]

end Registry

namespace Header

variable {registry : Registry} {segment : Text} {header : Header} {shape : Shape}
  {members : List (String × Json)} {document : Json} {bytes : Bytes}

/-- A header takes everything but its algorithm from the shape as it is. -/
theorem ofShape_eq_ok_iff :
    ofShape registry shape = .ok header ↔
      shape = ⟨shape.algorithm, header.keyId, header.mediaType, header.critical⟩ ∧
        registry.Declares shape.algorithm header.algorithm := by
  obtain ⟨algorithm, keyId, mediaType, critical⟩ := header
  obtain ⟨name, shapeKeyId, shapeMediaType, shapeCritical⟩ := shape
  rw [ofShape, ← Registry.declared?_eq_some_iff_declares]
  cases registry.declared? name with
  | none => simp
  | some declared =>
      simp only [Except.ok.injEq, Header.mk.injEq, Shape.mk.injEq, Option.some.injEq]
      tauto

/-! ## Segments -/

theorem decode_of_document (hbytes : Base64.Url.encode bytes = segment)
    (hread : Json.readBytes .segment bytes = some document) :
    decode registry segment = ofValue registry (.ofJson document) := by
  rw [decode, Segment.decode, Base64.Url.decode_eq_ok_iff.mpr hbytes]
  simp only [Segment.readClaims, hread, Schema.check]

theorem decode_of_outlines (hbytes : Base64.Url.encode bytes = segment)
    (hread : Json.readBytes .segment bytes = some (.object members))
    (hshape : Outlines members shape) : decode registry segment = ofShape registry shape := by
  rw [decode_of_document hbytes hread, ofValue,
    checkShape_ofJson_eq_ok_iff.mpr ⟨members, rfl, hshape⟩]

theorem decode_of_not_canonical (h : ¬Base64.Url.Canonical segment) :
    ∃ fault, decode registry segment = .error (.base64 fault) := by
  cases hdecode : Base64.Url.decode segment with
  | ok bytes => exact absurd ⟨bytes, Base64.Url.encode_of_decode hdecode⟩ h
  | error fault => exact ⟨fault, by rw [decode, Segment.decode, hdecode]⟩

theorem decode_of_not_document (hbytes : Base64.Url.encode bytes = segment)
    (hread : Json.readBytes .segment bytes = none) :
    decode registry segment = .error (.claims [Issue.whole .notJson]) := by
  rw [decode, Segment.decode, Base64.Url.decode_eq_ok_iff.mpr hbytes]
  simp only [Segment.readClaims, hread]

theorem exists_document_of_decode (h : decode registry segment = .ok header) :
    ∃ bytes document, Base64.Url.encode bytes = segment ∧
      Json.readBytes .segment bytes = some document ∧
      ofValue registry (.ofJson document) = .ok header := by
  by_cases hcanonical : Base64.Url.Canonical segment
  · obtain ⟨bytes, hbytes⟩ := hcanonical
    cases hread : Json.readBytes .segment bytes with
    | none =>
        rw [decode_of_not_document hbytes hread] at h
        cases h
    | some document =>
        rw [decode_of_document hbytes hread] at h
        exact ⟨bytes, document, hbytes, hread, h⟩
  · have hrefused : ∃ fault, decode registry segment = .error (.base64 fault) :=
      decode_of_not_canonical hcanonical
    obtain ⟨fault, hfault⟩ := hrefused
    rw [hfault] at h
    cases h

theorem decode_eq_ok_iff :
    decode registry segment = .ok header ↔
      ∃ bytes members name, Base64.Url.encode bytes = segment ∧
        Json.readBytes .segment bytes = some (.object members) ∧
        Outlines members ⟨name, header.keyId, header.mediaType, header.critical⟩ ∧
        registry.Declares name header.algorithm := by
  constructor
  · intro hdecode
    obtain ⟨bytes, document, hbytes, hread, hvalue⟩ := exists_document_of_decode hdecode
    rw [ofValue] at hvalue
    cases hcheck : checkShape (.ofJson document) with
    | error issues =>
        rw [hcheck] at hvalue
        cases hvalue
    | ok shape =>
        rw [hcheck] at hvalue
        obtain ⟨members, rfl, hshape⟩ := checkShape_ofJson_eq_ok_iff.mp hcheck
        obtain ⟨hparts, hdeclares⟩ := ofShape_eq_ok_iff.mp hvalue
        exact ⟨bytes, members, shape.algorithm, hbytes, hread, hparts ▸ hshape, hdeclares⟩
  · rintro ⟨bytes, members, name, hbytes, hread, hshape, hdeclares⟩
    rw [decode_of_outlines hbytes hread hshape]
    exact ofShape_eq_ok_iff.mpr ⟨rfl, hdeclares⟩

end Header

end SignedToken
