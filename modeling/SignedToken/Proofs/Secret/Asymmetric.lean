import SignedToken.Proofs.Key.Block
import SignedToken.Proofs.Keyholder.Acceptance
import SignedToken.Proofs.Registry.Making
import SignedToken.Proofs.Secret.Marker

/-!
# No key file is a secret

Key files are read in one way and recognized in another.  Whatever can be read
as a key is recognized: its block stands between two markers, and no other block
with the same label can begin inside without ending there, because all that would
stand between the two markers is the start of another marker, which is no base64.
-/

namespace SignedToken.Secret

variable {label file : Bytes}

/-- The byte of a dash. -/
def dash : Byte := 45

theorem dashes_eq : dashes = List.replicate 3 dash ++ [dash] := rfl

theorem eq_dash_of_mem_dashes {byte : Byte} (h : byte ∈ dashes) : byte = dash := by
  simpa [dashes_eq] using h

theorem marker_eq_append_dash (first : Byte) (word label : Bytes) (last : Byte) :
    marker first word label last =
      dashes ++ [first] ++ word ++ label ++ [last] ++ List.replicate 3 dash ++ [dash] := by
  rw [marker, List.append_assoc _ (List.replicate 3 dash), ← dashes_eq]

/-- What stands in a marker between the first dashes and the last ones. -/
theorem exists_core_of_marker (first : Byte) (word label : Bytes) {last : Byte}
    (hlast : isDashOrBlank last = true) :
    ∃ blank closing, blank ∈ ([[], [32]] : List Bytes) ∧ (∀ byte ∈ closing, byte = dash) ∧
      marker first word label last =
        dashes ++ (first :: (word ++ label ++ blank ++ closing)) := by
  obtain rfl | rfl : last = dash ∨ last = 32 := by simpa [isDashOrBlank, dash] using hlast
  · refine ⟨[], dash :: dashes, by simp, ?_, by simp [marker]⟩
    exact List.forall_mem_cons.mpr ⟨rfl, fun _ => eq_dash_of_mem_dashes⟩
  · exact ⟨[32], dashes, by simp, fun _ => eq_dash_of_mem_dashes, by simp [marker]⟩

private theorem not_dashes_of_getLast? {part front back : Bytes} (heq : part = front ++ back)
    (hpart : ∀ last ∈ part.getLast?, last ≠ dash) (hback : back ≠ []) :
    ¬∀ byte ∈ back, byte = dash := by
  subst heq
  intro hdashes
  rw [List.getLast?_append_of_ne_nil front hback, List.getLast?_eq_some_getLast hback] at hpart
  exact hpart _ rfl (hdashes _ (List.getLast_mem hback))

/-- A marker that is cut behind another byte than a dash, and in front of a dash if not at its end,
is cut where its core ends. -/
theorem eq_of_cut {first : Byte} {core closing part rest : Bytes}
    (h : dashes ++ (first :: (core ++ closing)) = part ++ rest) (hcore : dash ∉ core)
    (hclosing : ∀ byte ∈ closing, byte = dash) (hne : part ≠ [])
    (hpart : ∀ last ∈ part.getLast?, last ≠ dash) (hrest : ∀ next ∈ rest.head?, next = dash) :
    part = dashes ++ (first :: core) := by
  have hdashes : ∀ byte ∈ dashes, byte = dash := fun _ => eq_dash_of_mem_dashes
  obtain ⟨inside, hinside, hafter⟩ | ⟨inside, hinside, -⟩ := List.append_eq_append_iff.mp h
  · cases inside with
    | nil =>
        rw [List.append_nil] at hinside
        exact absurd (hinside ▸ hdashes)
          (not_dashes_of_getLast? (List.nil_append part).symm hpart hne)
    | cons byte inside =>
        obtain ⟨rfl, hrestEq⟩ := List.cons.inj hafter
        obtain ⟨more, rfl, hclosingEq⟩ | ⟨left, hcoreEq, hleft⟩ :=
          List.append_eq_append_iff.mp hrestEq
        · by_cases hmore : more = []
          · rw [hinside, hmore, List.append_nil]
          · have hpartEq : part = dashes ++ (first :: core) ++ more := by simp [hinside]
            refine absurd (fun next hnext => ?_) (not_dashes_of_getLast? hpartEq hpart hmore)
            exact hclosing next (hclosingEq ▸ List.mem_append_left rest hnext)
        · cases left with
          | nil => rw [hinside, hcoreEq, List.append_nil]
          | cons next left =>
              have hnext : next = dash := hrest next (by simp [hleft])
              exact absurd (by simp [hcoreEq, hnext]) hcore
  · have hdashPart : ∀ byte ∈ part, byte = dash := fun byte hbyte =>
      hdashes byte (hinside ▸ List.mem_append_left inside hbyte)
    exact absurd hdashPart (not_dashes_of_getLast? (List.nil_append part).symm hpart hne)

/-! ## Markers inside a block -/

theorem labels_subset : ∀ label ∈ Key.labels, label ∈ blockLabels := by decide

/-- What stands in the marker of a block. -/
def core (label blank : Bytes) : Bytes := beginWord ++ label ++ blank

theorem dash_notMem_core : ∀ label ∈ Key.labels, ∀ blank ∈ ([[], [32]] : List Bytes),
    dash ∉ core label blank := by
  decide

theorem lineFeed_notMem_core : ∀ label ∈ Key.labels, ∀ blank ∈ ([[], [32]] : List Bytes),
    10 ∉ core label blank := by
  decide

/-- It is no body of such a block: without padding, that many letters are no base64. -/
theorem ofRaw?_core : ∀ label ∈ Key.labels, ∀ blank ∈ ([[], [32]] : List Bytes),
    (Pem.ofRaw? ⟨label, core label blank, label⟩).isNone = true := by
  decide

/-- A part of a block that starts a marker which does not end in the block. -/
private theorem exists_of_not_within {part rest : Bytes} {length : Nat}
    (hmarker : markerAt? beginWord (part ++ rest) = some (label, length))
    (hlength : part.length ≤ length) (hlabel : label ∈ Key.labels) (hne : part ≠ [])
    (hpart : ∀ last ∈ part.getLast?, last ≠ dash) (hrest : ∀ next ∈ rest.head?, next = dash) :
    ∃ first blank, isDashOrBlank first = true ∧ blank ∈ ([[], [32]] : List Bytes) ∧
      part = dashes ++ (first :: core label blank) := by
  obtain ⟨-, first, last, further, hfirst, hlast, heq, rfl⟩ := markerAt?_eq_some_iff.mp hmarker
  obtain ⟨blank, closing, hblank, hclosing, hcore⟩ :=
    exists_core_of_marker first beginWord label hlast
  obtain ⟨missing, hcut⟩ : part <+: marker first beginWord label last :=
    List.prefix_of_prefix_length_le (List.prefix_append _ _) ⟨further, heq.symm⟩ hlength
  have hmissing : rest = missing ++ further := by
    rw [← hcut, List.append_assoc] at heq
    exact List.append_cancel_left heq
  refine ⟨first, blank, hfirst, hblank, ?_⟩
  apply eq_of_cut (hcore.symm.trans hcut.symm) (dash_notMem_core label hlabel blank hblank)
    hclosing hne hpart
  intro next hnext
  apply hrest
  rw [hmissing, List.head?_append, Option.mem_def.mp hnext]
  rfl

/-- Behind the last dash of a part that reaches into a body, there is all of the body. -/
private theorem body_eq_of_suffix {start part blanks body inside : Bytes} {first : Byte}
    (hsuffix : part <:+ start ++ [dash] ++ (blanks ++ body))
    (hpart : part = dashes ++ (first :: inside)) (hfirst : isDashOrBlank first = true)
    (hinside : dash ∉ inside) (hhead : ∀ next ∈ inside.head?, Pem.isSpace next = false)
    (hblanks : ∀ byte ∈ blanks, Pem.isSpace byte = true) (hbody : dash ∉ body)
    (hbodyHead : ∀ next ∈ body.head?, Pem.isSpace next = false) : body = inside := by
  obtain ⟨front, hfront⟩ := hsuffix
  have hgap : dash ∉ blanks ++ body := by
    intro hmem
    obtain hblank | hinBody := List.mem_append.mp hmem
    · exact absurd (hblanks dash hblank) (by decide)
    · exact hbody hinBody
  have hafter : ∃ blank, (∀ byte ∈ blank, Pem.isSpace byte = true) ∧
      blank ++ inside = blanks ++ body := by
    obtain rfl | rfl : first = dash ∨ first = 32 := by simpa [isDashOrBlank, dash] using hfirst
    · refine ⟨[], by simp, ?_⟩
      have heq : front ++ dashes ++ dash :: inside = start ++ dash :: (blanks ++ body) := by
        simpa [hpart] using hfront
      exact (Search.after_last_unique heq hinside hgap).2
    · refine ⟨[32], by simp [Pem.isSpace], ?_⟩
      have heq : front ++ List.replicate 3 dash ++ dash :: ([32] ++ inside) =
          start ++ dash :: (blanks ++ body) := by
        simpa [hpart, dashes_eq] using hfront
      exact (Search.after_last_unique heq (by simpa [dash] using hinside) hgap).2
  obtain ⟨blank, hblank, heq⟩ := hafter
  calc body
      = (blanks ++ body).dropWhile Pem.isSpace :=
        (Search.dropWhile_append_of_forall hblanks hbodyHead).symm
    _ = (blank ++ inside).dropWhile Pem.isSpace := by rw [heq]
    _ = inside := Search.dropWhile_append_of_forall hblank hhead

/-- A part without line feeds reaches no further back than the last one. -/
private theorem suffix_of_notMem {start code part : Bytes} {mark : Byte}
    (hsuffix : part <:+ start ++ mark :: code) (hmark : mark ∉ part) : part <:+ code := by
  obtain ⟨front, hfront⟩ := hsuffix
  obtain ⟨inside, -, hpart⟩ | ⟨inside, -, hcode⟩ := List.append_eq_append_iff.mp hfront
  · exact absurd (by simp [hpart]) hmark
  · cases inside with
    | nil =>
        rw [List.nil_append] at hcode
        exact absurd (by simp [← hcode]) hmark
    | cons byte inside =>
        obtain ⟨-, rfl⟩ := List.cons.inj hcode
        exact List.suffix_append inside part

private theorem getLast?_of_suffix {start code part : Bytes} (hsuffix : part <:+ start ++ code)
    (hpart : part ≠ []) (hcode : code ≠ []) : part.getLast? = code.getLast? := by
  obtain ⟨front, hfront⟩ := hsuffix
  rw [← List.getLast?_append_of_ne_nil front hpart, hfront,
    List.getLast?_append_of_ne_nil start hcode]

private theorem lineFeed_notMem_start {first : Byte} {blank : Bytes} (hlabel : label ∈ Key.labels)
    (hfirst : isDashOrBlank first = true) (hblank : blank ∈ ([[], [32]] : List Bytes)) :
    10 ∉ dashes ++ (first :: core label blank) := by
  intro hmem
  obtain hdashes | hrest := List.mem_append.mp hmem
  · exact absurd (eq_dash_of_mem_dashes hdashes) (by decide)
  · obtain rfl | hcore := List.mem_cons.mp hrest
    · exact absurd hfirst (by decide)
    · exact lineFeed_notMem_core label hlabel blank hblank hcore

variable {raw : Pem.Raw} {block : Pem} {blanks after : Bytes}

/-- A marker with the same label that began inside a block and did not end there would be all that
stands in the block. -/
theorem beginsWithin_of_contains (h : Key.Contains file raw block) (hfollows : raw.Follows blanks) :
    BeginsWithin block.label (marker dash beginWord block.label dash ++ (blanks ++ raw.body))
      (marker dash endWord block.label dash ++ after) := by
  intro part length hsuffix hne hmarker
  by_contra hlength
  obtain ⟨code, hcode, hdash, hbody⟩ := Pem.exists_code h.read h.content
  have hlast : ∀ last ∈ part.getLast?, last ≠ dash := by
    obtain ⟨start, hstart⟩ : ∃ start, raw.body = start ++ code := by
      obtain hall | ⟨lead, hlead⟩ := hbody
      · exact ⟨[], hall⟩
      · exact ⟨lead ++ [10], by simp [hlead]⟩
    rw [hstart, ← List.append_assoc, ← List.append_assoc] at hsuffix
    rw [getLast?_of_suffix hsuffix hne hcode]
    rintro last hmem rfl
    exact hdash (List.mem_of_getLast? hmem)
  obtain ⟨first, blank, hfirst, hblank, hpart⟩ := exists_of_not_within hmarker
    (not_lt.mp hlength) h.label hne hlast (by simp [marker, dashes_eq])
  obtain hall | ⟨lead, hlead⟩ := hbody
  -- Without header lines, the last dash in front of the base64 ends the first marker of the block.
  · rw [marker_eq_append_dash] at hsuffix
    have hcore : raw.body = core block.label blank :=
      body_eq_of_suffix hsuffix hpart hfirst (dash_notMem_core _ h.label _ hblank)
        (by simp [core, beginWord, Bytes.ofAscii, Pem.isSpace]) hfollows.blanks_space
        (hall ▸ hdash) hfollows.body_head
    obtain ⟨hopening, hclosing, -⟩ := Pem.ofRaw?_eq_some h.read
    have hraw : raw = ⟨block.label, core block.label blank, block.label⟩ :=
      calc raw
          = ⟨raw.opening, raw.body, raw.closing⟩ := rfl
        _ = ⟨block.label, core block.label blank, block.label⟩ := by
          rw [hopening, hcore, hclosing]
    have hnone := ofRaw?_core _ h.label _ hblank
    rw [← hraw, h.read] at hnone
    cases hnone
  -- Header lines end with a line feed, over which no marker reaches.
  · rw [hlead, ← List.append_assoc, ← List.append_assoc] at hsuffix
    have hlineFeed : 10 ∉ part := hpart ▸ lineFeed_notMem_start h.label hfirst hblank
    have hinside := suffix_of_notMem hsuffix hlineFeed
    exact hdash (hinside.subset (by simp [hpart, dashes_eq, dash]))

theorem markerAt?_marker {label : Bytes} (hlabel : label ∈ blockLabels) (word rest : Bytes) :
    markerAt? word (marker dash word label dash ++ rest) =
      some (label, (marker dash word label dash).length) :=
  markerAt?_eq_some_iff.mpr ⟨hlabel, dash, dash, rest, by decide, by decide, rfl, rfl⟩

/-- A block that is read stands between two markers. -/
theorem spelled_eq_markers (hread : Pem.ofRaw? raw = some block) (blanks : Bytes) :
    raw.spelled blanks = marker dash beginWord block.label dash ++ (blanks ++ raw.body) ++
      marker dash endWord block.label dash := by
  obtain ⟨hopening, hclosing, -⟩ := Pem.ofRaw?_eq_some hread
  have hbegin : Pem.beginMark = dashes ++ [dash] ++ beginWord := rfl
  have hend : Pem.endMark = dashes ++ [dash] ++ endWord := rfl
  have hclose : Pem.closingMark = [dash] ++ dashes := rfl
  rw [Pem.Raw.spelled, hopening, hclosing, hbegin, hend, hclose]
  simp [marker]

theorem blockEnds_of_contains (h : Key.Contains file raw block) : blockEnds 0 [] file = true := by
  obtain ⟨before, blanks, after, hfollows, hfile⟩ := h.stands
  have hlabel := labels_subset _ h.label
  have hspelled : file =
      before ++ (marker dash beginWord block.label dash ++ (blanks ++ raw.body) ++
        (marker dash endWord block.label dash ++ after)) := by
    rw [hfile, spelled_eq_markers h.read]
    simp
  have hbegin := markerAt?_marker hlabel beginWord
    (blanks ++ raw.body ++ (marker dash endWord block.label dash ++ after))
  rw [← List.append_assoc] at hbegin
  have hend := markerAt?_marker hlabel endWord after
  rw [hspelled]
  exact blockEnds_of_stands hbegin hend (beginsWithin_of_contains h hfollows) before

/-- A file with a key is not empty, and it is a key before it is anything else. -/
theorem fault?_of_contains (h : Key.Contains file raw block) :
    fault? file = some .asymmetricSecret := by
  have hends := blockEnds_of_contains h
  have hfile : file.isEmpty = false := by
    cases file with
    | nil => cases hends
    | cons byte file => rfl
  rw [fault?, looksAsymmetric, hfile, hends]
  rfl

end SignedToken.Secret

namespace SignedToken.Backend

variable {kind : BackendKind} {file : Value} {bytes : Bytes} {backend : Backend}

/-- ASCII text and bytes are the same bytes for a key file and for a secret. -/
theorem bytesOf_of_fileBytes (h : fileBytes file = .ok bytes) :
    Secret.bytesOf file = .ok bytes := by
  cases file with
  | text content =>
      rw [fileBytes] at h
      cases hascii : content.toString? >>= Ascii.encode with
      | none =>
          rw [hascii] at h
          cases h
      | some encoded =>
          rw [hascii] at h
          cases h
          obtain ⟨chars, hchars, hencoded⟩ := Option.bind_eq_some_iff.mp hascii
          obtain rfl := Text.toString?_eq_some_iff.mp hchars
          rw [Secret.bytesOf, Text.encoded, Text.utf8?_ofString, Utf8.encode_of_ascii hencoded]
  | bytes content =>
      cases h
      rfl
  | _ => cases h

theorem exists_contains_of_readMaterial {material : Material}
    (h : readMaterial kind file = .ok material) :
    ∃ bytes raw block, fileBytes file = .ok bytes ∧ Key.Contains bytes raw block := by
  rw [readMaterial] at h
  cases hkind : kind.onlyVerifies with
  | true =>
      cases hread : readPublic kind.algorithm.family file with
      | error failure => simp [hkind, hread, Except.map] at h
      | ok key =>
          obtain ⟨bytes, hbytes, hkey⟩ := readPublic_eq_ok_iff.mp hread
          obtain ⟨raw, block, hcontains⟩ := Key.contains_of_publicOfPem? hkey
          exact ⟨bytes, raw, block, hbytes, hcontains⟩
  | false =>
      cases hread : readPrivate kind.algorithm.family file with
      | error failure => simp [hkind, hread, Except.map] at h
      | ok key =>
          obtain ⟨bytes, hbytes, hkey⟩ := readPrivate_eq_ok_iff.mp hread
          obtain ⟨raw, block, hcontains⟩ := Key.contains_of_privateOfPem? hkey
          exact ⟨bytes, raw, block, hbytes, hcontains⟩

/-- Whatever is read from a key file, its bytes are no secret. -/
theorem ofValue_of_readMaterial {material : Material} (h : readMaterial kind file = .ok material) :
    Secret.ofValue file = .error (.key .hmac .asymmetricSecret) := by
  obtain ⟨bytes, raw, block, hbytes, hcontains⟩ := exists_contains_of_readMaterial h
  rw [Secret.ofValue, bytesOf_of_fileBytes hbytes]
  simp only [Secret.fault?_of_contains hcontains]

/-- From no value are both a backend with a key of a key pair and a backend with a secret made.  A
key file that is accepted is refused as a secret by every algorithm that is enabled, because it
holds a key of another kind, and made a secret under no settings. -/
theorem key_file_no_secret {registry : Registry} (h : ofFile registry kind file = .ok backend) :
    (∀ (other : Registry) (digest : Digest), other.enabled ⟨.hmac, digest⟩ = true →
      make other ⟨⟨.hmac, digest⟩, false⟩ (.value file) =
        .error (.key .hmac .asymmetricSecret)) ∧
    (Failure.key .hmac .asymmetricSecret).kind = .hmacKeyError ∧
    ∀ (other : Registry) (digest : Digest) (secret : Backend),
      make other ⟨⟨.hmac, digest⟩, false⟩ (.value file) ≠ .ok secret := by
  obtain ⟨material, hread, -⟩ := ofFile_eq_ok_iff.mp h
  have hsecret := ofValue_of_readMaterial hread
  have hmake : ∀ (other : Registry) (digest : Digest),
      make other ⟨⟨.hmac, digest⟩, false⟩ (.value file) =
        if other.enabled ⟨.hmac, digest⟩ then .error (.key .hmac .asymmetricSecret)
        else .error (.disabled ⟨.hmac, digest⟩) := by
    intro other digest
    rw [make_eq]
    simp only [bind, hsecret]
    rfl
  refine ⟨fun other digest henabled => ?_, rfl, fun other digest secret hok => ?_⟩
  · rw [hmake, if_pos henabled]
  · rw [hmake] at hok
    split_ifs at hok

/-- A public key behind other text and without line breaks. -/
private def inlineKey : Value :=
  .text "key:-----BEGIN RSA PUBLIC KEY-----MAYC AQ8CAQM=-----END RSA PUBLIC KEY-----"

theorem key_file_no_secret_of_inline :
    make ⟨true, ⟨""⟩⟩ ⟨⟨.hmac, .sha256⟩, false⟩ (.value inlineKey) =
      .error (.key .hmac .asymmetricSecret) := by
  have hmade : (ofFile ⟨true, ⟨""⟩⟩ ⟨⟨.rsa, .sha256⟩, true⟩ inlineKey).toOption.any
      (fun _ => true) = true := rfl
  obtain ⟨backend, hbackend, -⟩ := exists_ok_of_any hmade
  exact (key_file_no_secret hbackend).1 _ _ rfl

end SignedToken.Backend
