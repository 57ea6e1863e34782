import SignedToken.Proofs.Claims.Portable
import SignedToken.Proofs.Header.Shape
import SignedToken.Proofs.Registry.Listing

/-!
# Headers through their segments

A header without lone surrogates is written as a dict of portable values, so its
segment holds that dict; the shape of the dict is the header again, and the name
of an enabled algorithm is found in the table under itself.  A header with a
lone surrogate has no segment.
-/

namespace SignedToken

namespace Registry

/-- The name of an enabled algorithm, or of none, declares what it was written for. -/
theorem declared?_name {registry : Registry} {declared : Declared}
    (h : ∀ algorithm, declared = some algorithm → registry.enabled algorithm = true) :
    registry.declared? declared.name = some declared := by
  cases declared with
  | none => rfl
  | some algorithm =>
      have hfind : registry.find? algorithm.name = some algorithm :=
        find?_eq_some_iff.mpr ⟨rfl, h algorithm rfl⟩
      rw [declared?, Declared.name, Option.map_some, Option.getD_some,
        if_neg (Text.ofString_inj.not.mpr algorithm.name_ne_unsignedName), hfind]
      rfl

end Registry

/-! ## What is written -/

namespace Value

variable {inside : Nat}

theorem exists_ofString_of_writeAt {text : Text} {document : Json}
    (h : writeAt inside (.text text) = some document) : ∃ chars : String, text = chars := by
  rw [writeAt] at h
  split_ifs at h
  obtain ⟨chars, hchars, -⟩ := Option.map_eq_some_iff.mp h
  exact ⟨chars, Text.toString?_eq_some_iff.mp hchars⟩

theorem exists_of_writeItems {items : List Value} {documents : List Json}
    (h : writeItems inside items = some documents) :
    ∀ item ∈ items, ∃ document, writeAt inside item = some document := by
  induction items generalizing documents with
  | nil => simp
  | cons item rest ih =>
      simp only [writeItems, Option.bind_eq_bind, Option.bind_eq_some_iff] at h
      obtain ⟨first, hfirst, others, hothers, -⟩ := h
      exact List.forall_mem_cons.mpr ⟨⟨first, hfirst⟩, ih hothers⟩

theorem exists_of_writeEntries {entries : List (Value × Value)}
    {members : List (String × Json)} (h : writeEntries inside entries = some members) :
    ∀ entry ∈ entries, ∃ document, writeAt inside entry.2 = some document := by
  induction entries generalizing members with
  | nil => simp
  | cons entry rest ih =>
      simp only [writeEntries, Option.bind_eq_bind, Option.bind_eq_some_iff] at h
      obtain ⟨name, -, first, hfirst, others, hothers, -⟩ := h
      exact List.forall_mem_cons.mpr ⟨⟨first, hfirst⟩, ih hothers⟩

end Value

namespace Header

def texts (header : Header) : List Text :=
  header.keyId.toList ++ header.mediaType.toList ++ header.critical.getD []

/-- Whether no lone surrogate stands in a header. -/
def Writable (header : Header) : Prop := ∀ text ∈ header.texts, ∃ chars : String, text = chars

/-- The members of a header that are set, by their names. -/
private def members (header : Header) : List (String × Value) :=
  ("alg", .text header.algorithm.name) ::
    ((header.keyId.map fun keyId => ("kid", Value.text keyId)).toList ++
      (header.mediaType.map fun mediaType => ("typ", Value.text mediaType)).toList ++
      (header.critical.map fun names => ("crit", Value.list (names.map .text))).toList)

private theorem toValue_eq_textDict (header : Header) :
    header.toValue = Value.textDict header.members := by
  obtain ⟨algorithm, keyId, mediaType, critical⟩ := header
  cases keyId <;> cases mediaType <;> cases critical <;> rfl

private theorem nodup_members (header : Header) : (header.members.map (·.1)).Nodup := by
  obtain ⟨algorithm, keyId, mediaType, critical⟩ := header
  cases keyId <;> cases mediaType <;> cases critical <;> simp [members]

/-- Only the list of names in a header is a container itself. -/
theorem Writable.portable_toValue {header : Header} (h : header.Writable) (depth : Nat) :
    header.toValue.Portable (depth + 2) := by
  have htext {text : Text} (htext : text ∈ header.texts) (depth : Nat) :
      (Value.text text).Portable depth := by
    obtain ⟨chars, rfl⟩ := h text htext
    exact .text depth chars
  have htexts {names : List Text} (hnames : header.critical = some names) :
      (Value.list (names.map .text)).Portable (depth + 1) := by
    refine .list depth _ fun item hitem => ?_
    obtain ⟨name, hname, rfl⟩ := List.mem_map.mp hitem
    exact htext (by simp [texts, hnames, hname]) depth
  rw [toValue_eq_textDict]
  refine .dict (depth + 1) _ header.nodup_members fun entry hentry => ?_
  simp only [members, List.mem_cons, List.mem_append, Option.mem_toList, Option.map_eq_some_iff]
    at hentry
  obtain rfl | (⟨keyId, hkeyId, rfl⟩ | ⟨mediaType, hmediaType, rfl⟩) | ⟨names, hnames, rfl⟩ :=
    hentry
  · exact .text _ _
  · exact htext (by simp [texts, hkeyId]) _
  · exact htext (by simp [texts, hmediaType]) _
  · exact htexts hnames

/-- A header with a lone surrogate has no segment. -/
theorem writable_of_toJson? {header : Header} {document : Json}
    (h : header.toValue.toJson? = some document) : header.Writable := by
  rw [toValue_eq_textDict, Value.toJson?, Value.textDict, Value.writeAt, if_neg (by decide)] at h
  obtain ⟨written, hwritten, -⟩ := Option.map_eq_some_iff.mp h
  have hmembers : ∀ entry ∈ header.members,
      ∃ document, Value.writeAt 1 entry.2 = some document := by
    intro entry hentry
    exact Value.exists_of_writeEntries hwritten _ (List.mem_map_of_mem hentry)
  intro text htext
  simp only [texts, List.mem_append, Option.mem_toList] at htext
  obtain (hkeyId | hmediaType) | hname := htext
  · obtain ⟨document, hdocument⟩ := hmembers ("kid", .text text) (by simp [members, hkeyId])
    exact Value.exists_ofString_of_writeAt hdocument
  · obtain ⟨document, hdocument⟩ := hmembers ("typ", .text text) (by simp [members, hmediaType])
    exact Value.exists_ofString_of_writeAt hdocument
  · cases hcritical : header.critical with
    | none => simp [hcritical] at hname
    | some names =>
        obtain ⟨document, hdocument⟩ :=
          hmembers ("crit", .list (names.map .text)) (by simp [members, hcritical])
        rw [Value.writeAt, if_neg (by decide)] at hdocument
        obtain ⟨documents, hdocuments, -⟩ := Option.map_eq_some_iff.mp hdocument
        rw [hcritical, Option.getD_some] at hname
        obtain ⟨item, hitem⟩ :=
          Value.exists_of_writeItems hdocuments _ (List.mem_map_of_mem hname)
        exact Value.exists_ofString_of_writeAt hitem

theorem encode_of_not_writable {header : Header} (h : ¬header.Writable) :
    header.encode = .error .unwritable := by
  rw [encode, Segment.encode]
  cases hdocument : header.toValue.toJson? with
  | none => rfl
  | some document => exact absurd (writable_of_toJson? hdocument) h

/-- The dict of a header describes it. -/
theorem exists_describes (header : Header) :
    ∃ entries, header.toValue = .dict entries ∧
      Describes entries
        ⟨header.algorithm.name, header.keyId, header.mediaType, header.critical⟩ := by
  obtain ⟨entries, hentries, halg, hkid, htyp, hcrit⟩ :
      ∃ entries, header.toValue = .dict entries ∧
        member? "alg" entries = some (.text header.algorithm.name) ∧
        member? "kid" entries = header.keyId.map .text ∧
        member? "typ" entries = header.mediaType.map .text ∧
        member? "crit" entries = header.critical.map textList := by
    obtain ⟨algorithm, keyId, mediaType, critical⟩ := header
    refine ⟨_, rfl, ?_⟩
    cases keyId <;> cases mediaType <;> cases critical <;> exact ⟨rfl, rfl, rfl, rfl⟩
  refine ⟨entries, hentries, halg, ?_, ?_, ?_⟩
  · exact hkid ▸ Says.ofOption .text header.keyId
  · exact htyp ▸ Says.ofOption .text header.mediaType
  · exact hcrit ▸ Says.ofOption textList header.critical

/-- A header whose algorithm is enabled, or that declares none, is read back from its segment. -/
theorem decode_encode {registry : Registry} {header : Header} (hwritable : header.Writable)
    (h : ∀ algorithm, header.algorithm = some algorithm → registry.enabled algorithm = true) :
    ∃ segment, header.encode = .ok segment ∧ decode registry segment = .ok header := by
  obtain ⟨segment, hencode, hdecode⟩ := Segment.decode_encode (hwritable.portable_toValue 198)
  refine ⟨segment, hencode, ?_⟩
  rw [decode, hdecode]
  simp only [ofValue, checkShape_eq_ok_iff.mpr header.exists_describes, ofShape,
    Registry.declared?_name h]

end Header

end SignedToken
