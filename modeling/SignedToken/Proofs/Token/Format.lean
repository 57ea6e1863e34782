import SignedToken.Proofs.Base64.Spelling
import SignedToken.Proofs.Text.Break
import SignedToken.Token.Raw

/-!
# The format of tokens

The search for the last dot, the search for the first dot before it and the test
for further dots amount to one thing: a text has exactly two dots.  Since there
is one spelling per byte string, a token can be put together again from what is
read of it.
-/

namespace SignedToken

/-! ## Failures of a segment -/

theorem Segment.kind_of_decode {schema : Schema} {segment : Text} {reason : DecodeFailure}
    (h : Segment.decode schema segment = .error reason) :
    reason.kind = .base64DecodeError ∨ reason.kind = .jsonDecodeError := by
  simp only [Segment.decode, Segment.readClaims] at h
  split at h
  · split at h
    · cases h
      exact .inr rfl
    · split at h
      · cases h
      · cases h
        exact .inr rfl
  · cases h
    exact .inl rfl

theorem Header.kind_of_ofValue {registry : Registry} {value : Value} {reason : DecodeFailure}
    (h : Header.ofValue registry value = .error reason) : reason.kind = .jsonDecodeError := by
  simp only [Header.ofValue, Header.ofShape] at h
  split at h
  · split at h
    · cases h
    · cases h
      rfl
  · cases h
    rfl

/-- The format of the whole token is no concern of its header. -/
theorem Header.kind_of_decode {registry : Registry} {segment : Text} {reason : DecodeFailure}
    (h : Header.decode registry segment = .error reason) : reason.kind ≠ .invalidFormat := by
  unfold Header.decode at h
  split at h
  · rw [Header.kind_of_ofValue h]
    decide
  · rename_i hsegment
    cases h
    obtain hkind | hkind := Segment.kind_of_decode hsegment
    · rw [hkind]
      decide
    · rw [hkind]
      decide

namespace RawToken

/-- A text made of three segments, none of which has a dot of its own. -/
structure Spells (text : Text) (segments : Segments) : Prop where
  text_eq : text = segments.signed ++ "." ++ segments.signature
  signed_eq : segments.signed = segments.header ++ "." ++ segments.payload
  header_dotless : dot ∉ segments.header.toList
  payload_dotless : dot ∉ segments.payload.toList
  signature_dotless : dot ∉ segments.signature.toList

/-! ## Splitting -/

variable {text : Text} {segments : Segments}

/-- A text is split into its segments or has another number of them. -/
theorem split_text_cases (text : Text) :
    split (.text text) = .error .notThreeSegments ∨
      ∃ segments, split (.text text) = .ok segments ∧ Spells text segments := by
  simp only [split]
  split
  · exact .inl rfl
  · rename_i signed signature hlast
    split
    · exact .inl rfl
    · rename_i header payload hfirst
      split_ifs with hfurther
      · exact .inl rfl
      · obtain ⟨htext, hsignature⟩ := Search.breakAtLast?_eq_some_iff.mp hlast
        obtain ⟨rfl, hheader⟩ := Search.breakAt?_singleton_eq_some_iff.mp hfirst
        refine .inr ⟨_, rfl, Text.ext ?_, Text.ext ?_, ?_, ?_, ?_⟩
        · simp [htext]
        · simp
        · simpa using hheader
        · simpa using hfurther
        · simpa using hsignature

theorem Spells.of_split (h : split (.text text) = .ok segments) : Spells text segments := by
  obtain herror | ⟨others, hothers, hspells⟩ := split_text_cases text
  · rw [herror] at h
    cases h
  · rw [hothers] at h
    cases h
    exact hspells

theorem Spells.split_eq (h : Spells text segments) : split (.text text) = .ok segments := by
  have hlast : Search.breakAtLast? dot text.toList =
      some (segments.signed.toList, segments.signature.toList) :=
    Search.breakAtLast?_eq_some_iff.mpr ⟨by simp [h.text_eq], h.signature_dotless⟩
  have hfirst : Search.breakAt? [dot] segments.signed.toList =
      some (segments.header.toList, segments.payload.toList) :=
    Search.breakAt?_singleton_eq_some_iff.mpr ⟨by simp [h.signed_eq], h.header_dotless⟩
  have hfurther : segments.payload.toList.contains dot = false := by
    simpa using h.payload_dotless
  simp only [split, hlast, hfirst, hfurther, Bool.false_eq_true, if_false]

theorem Spells.count_eq_two (h : Spells text segments) : text.toList.count dot = 2 := by
  simp [h.text_eq, h.signed_eq, List.count_eq_zero_of_not_mem h.header_dotless,
    List.count_eq_zero_of_not_mem h.payload_dotless,
    List.count_eq_zero_of_not_mem h.signature_dotless]

/-- The two dots of a text are its first and its last one. -/
theorem exists_spells (h : text.toList.count dot = 2) : ∃ segments, Spells text segments := by
  obtain ⟨header, rest, htext, hheader⟩ :=
    List.eq_append_cons_of_mem (List.count_pos_iff.mp (by omega : 0 < text.toList.count dot))
  have hrest : rest.count dot = 1 := by
    simpa [htext, List.count_eq_zero_of_not_mem hheader] using h
  obtain ⟨payload, signature, rfl, hpayload⟩ :=
    List.eq_append_cons_of_mem (List.count_pos_iff.mp (by omega : 0 < rest.count dot))
  have hsignature : dot ∉ signature := by
    rw [← List.count_eq_zero]
    simpa [List.count_eq_zero_of_not_mem hpayload] using hrest
  refine ⟨⟨⟨header ++ dot :: payload⟩, ⟨header⟩, ⟨payload⟩, ⟨signature⟩⟩,
    Text.ext ?_, Text.ext ?_, ?_, ?_, ?_⟩
  · simp [htext]
  · simp
  · simpa using hheader
  · simpa using hpayload
  · simpa using hsignature

/-- With two dots, and only then, a text is made of three segments, and in one way. -/
theorem count_eq_two_iff : text.toList.count dot = 2 ↔ ∃! segments, Spells text segments := by
  constructor
  · intro hcount
    obtain ⟨segments, hspells⟩ := exists_spells hcount
    refine ⟨segments, hspells, fun other hother => ?_⟩
    have hsame := hother.split_eq.symm.trans hspells.split_eq
    cases hsame
    rfl
  · rintro ⟨segments, hspells, -⟩
    exact hspells.count_eq_two

theorem split_text_of_count_ne (h : text.toList.count dot ≠ 2) :
    split (.text text) = .error .notThreeSegments := by
  obtain herror | ⟨segments, -, hspells⟩ := split_text_cases text
  · exact herror
  · exact absurd hspells.count_eq_two h

/-! ## Reading -/

variable {registry : Registry} {token : Value} {raw : RawToken}

theorem outcome_decode (registry : Registry) (token : Value) :
    (decode registry token).outcome = (read registry token).mapError .decode := by
  rw [decode]
  cases consultsSettings registry token <;> cases read registry token <;> rfl

theorem outcome_decode_eq_ok_iff :
    (decode registry token).outcome = .ok raw ↔ read registry token = .ok raw := by
  rw [outcome_decode]
  cases read registry token <;> simp [Except.mapError]

theorem outcome_decode_eq_error_iff {failure : Failure} :
    (decode registry token).outcome = .error failure ↔
      ∃ reason, read registry token = .error reason ∧ failure = .decode reason := by
  rw [outcome_decode]
  cases read registry token <;> simp [Except.mapError, eq_comm]

theorem Spells.read_eq (h : Spells text segments) :
    read registry (.text text) =
      Header.decode registry segments.header >>= fun header => assemble segments header := by
  rw [read, h.split_eq]
  rfl

/-- Tokens that are read are texts of three segments. -/
theorem exists_spells_of_read (h : read registry token = .ok raw) :
    ∃ text segments, token = .text text ∧ Spells text segments := by
  cases hsplit : split token with
  | error reason =>
      rw [read, hsplit] at h
      cases h
  | ok segments =>
      cases token with
      | text text => exact ⟨text, segments, rfl, .of_split hsplit⟩
      | _ => cases hsplit

/-- The segments of a text that can be read say everything that is read of it. -/
theorem Spells.read_eq_ok_iff (h : Spells text segments) :
    read registry (.text text) = .ok raw ↔
      Header.decode registry segments.header = .ok raw.header ∧
        Base64.Url.encode raw.signature = segments.signature ∧
        raw.headerAndPayload = segments.signed ∧ raw.payload = segments.payload := by
  obtain ⟨headerAndPayload, header, payload, signature⟩ := raw
  rw [h.read_eq]
  cases Header.decode registry segments.header with
  | error reason => simp [bind, Except.bind]
  | ok found =>
      show assemble segments found = _ ↔ _
      rw [assemble, ← Base64.Url.decode_eq_ok_iff]
      cases Base64.Url.decode segments.signature with
      | error fault => simp
      | ok bytes =>
          simp only [Except.ok.injEq, RawToken.mk.injEq]
          constructor
          · rintro ⟨rfl, rfl, rfl, rfl⟩
            exact ⟨rfl, rfl, rfl, rfl⟩
          · rintro ⟨rfl, rfl, rfl, rfl⟩
            exact ⟨rfl, rfl, rfl, rfl⟩

/-- What was signed of a text of characters has bytes. -/
theorem exists_message?_of_read {chars : String} (h : read registry (.text chars) = .ok raw) :
    ∃ message, raw.message? = some message := by
  obtain ⟨text, segments, htext, hspells⟩ := exists_spells_of_read h
  obtain rfl : chars = text := Value.text.inj htext
  obtain ⟨-, -, hsigned, -⟩ := hspells.read_eq_ok_iff.mp h
  obtain ⟨upToDot, -, hupToDot, -⟩ := Text.exists_ofString_of_append hspells.text_eq.symm
  obtain ⟨signed, -, hbefore, -⟩ := Text.exists_ofString_of_append hupToDot
  refine ⟨Utf8.encode signed, ?_⟩
  rw [message?, hsigned, hbefore, Text.utf8?_ofString]

theorem Spells.exists_read_iff (h : Spells text segments) :
    (∃ raw, read registry (.text text) = .ok raw) ↔
      (∃ header, Header.decode registry segments.header = .ok header) ∧
        Base64.Url.Canonical segments.signature := by
  constructor
  · rintro ⟨raw, hread⟩
    obtain ⟨hheader, hsignature, -, -⟩ := h.read_eq_ok_iff.mp hread
    exact ⟨⟨raw.header, hheader⟩, ⟨raw.signature, hsignature⟩⟩
  · rintro ⟨⟨header, hheader⟩, ⟨signature, hsignature⟩⟩
    exact ⟨⟨segments.signed, header, segments.payload, signature⟩,
      h.read_eq_ok_iff.mpr ⟨hheader, hsignature, rfl, rfl⟩⟩

/-- Readable are the texts of three segments with a header and the spelling of a
signature. -/
theorem exists_read_iff :
    (∃ raw, read registry token = .ok raw) ↔
      ∃ text segments, token = .text text ∧ Spells text segments ∧
        (∃ header, Header.decode registry segments.header = .ok header) ∧
        Base64.Url.Canonical segments.signature := by
  constructor
  · rintro ⟨raw, hread⟩
    obtain ⟨text, segments, rfl, hspells⟩ := exists_spells_of_read hread
    exact ⟨text, segments, rfl, hspells, hspells.exists_read_iff.mp ⟨raw, hread⟩⟩
  · rintro ⟨text, segments, rfl, hspells, hreadable⟩
    exact hspells.exists_read_iff.mpr hreadable

/-- Only the outer segments decide whether a text around a payload without dots can be read. -/
private theorem exists_read_around_iff {header payload signature : Text}
    (hpayload : dot ∉ payload.toList) :
    (∃ raw, read registry (.text (header ++ "." ++ payload ++ "." ++ signature)) = .ok raw) ↔
      (dot ∉ header.toList ∧ dot ∉ signature.toList) ∧
        (∃ found, Header.decode registry header = .ok found) ∧
        Base64.Url.Canonical signature := by
  have hspells (hdotless : dot ∉ header.toList ∧ dot ∉ signature.toList) :
      Spells (header ++ "." ++ payload ++ "." ++ signature)
        ⟨header ++ "." ++ payload, header, payload, signature⟩ :=
    ⟨rfl, rfl, hdotless.1, hpayload, hdotless.2⟩
  constructor
  · rintro ⟨raw, hread⟩
    obtain ⟨_, segments, htext, hsegments⟩ := exists_spells_of_read hread
    cases htext
    have hdotless : dot ∉ header.toList ∧ dot ∉ signature.toList := by
      have hcount := hsegments.count_eq_two
      simp only [Text.toList_append, List.count_append] at hcount
      have hdot : List.count dot (Text.toList ".") = 1 := by decide
      rw [← List.count_eq_zero, ← List.count_eq_zero]
      omega
    exact ⟨hdotless, (hspells hdotless).exists_read_iff.mp ⟨raw, hread⟩⟩
  · rintro ⟨hdotless, hreadable⟩
    exact (hspells hdotless).exists_read_iff.mpr hreadable

/-- A token is its text: the parts that are read of it spell it again. -/
theorem eq_text_of_read (h : read registry token = .ok raw) :
    token = .text (raw.headerAndPayload ++ "." ++ Base64.Url.encode raw.signature) ∧
      ∃ header, Header.decode registry header = .ok raw.header ∧ dot ∉ header.toList ∧
        dot ∉ raw.payload.toList ∧ raw.headerAndPayload = header ++ "." ++ raw.payload := by
  obtain ⟨text, segments, rfl, hspells⟩ := exists_spells_of_read h
  obtain ⟨hheader, hsignature, hsigned, hpayload⟩ := hspells.read_eq_ok_iff.mp h
  rw [hsigned, hsignature, hpayload]
  exact ⟨congrArg Value.text hspells.text_eq, segments.header, hheader, hspells.header_dotless,
    hspells.payload_dotless, hspells.signed_eq⟩

/-! ## Refusing -/

/-- Anything else is refused for its format before a segment is looked at. -/
theorem read_of_malformed (registry : Registry)
    (h : ∀ text, token = .text text → text.toList.count dot ≠ 2) :
    ∃ reason, read registry token = .error reason ∧ reason.kind = .invalidFormat := by
  cases token with
  | text text =>
      refine ⟨.notThreeSegments, ?_, rfl⟩
      rw [read, split_text_of_count_ne (h text rfl)]
      rfl
  | _ => exact ⟨.notText, rfl, rfl⟩

/-- A text of three segments is refused for its header, and for its signature only if the header
can be read. -/
theorem Spells.reason_of_read (h : Spells text segments) {reason : DecodeFailure}
    (hread : read registry (.text text) = .error reason) :
    (∀ flaw, Header.decode registry segments.header = .error flaw → reason = flaw) ∧
      ∀ header, Header.decode registry segments.header = .ok header →
        reason.kind = .base64DecodeError ∧
          ∃ fault, Base64.Url.decode segments.signature = .error fault ∧
            reason = .base64 fault := by
  rw [h.read_eq] at hread
  cases hheader : Header.decode registry segments.header with
  | error flaw =>
      rw [hheader] at hread
      cases hread
      simp
  | ok header =>
      rw [hheader] at hread
      change assemble segments header = _ at hread
      rw [assemble] at hread
      cases hsignature : Base64.Url.decode segments.signature with
      | ok bytes =>
          rw [hsignature] at hread
          cases hread
      | error fault =>
          rw [hsignature] at hread
          cases hread
          simp [DecodeFailure.kind]

theorem kind_of_read {reason : DecodeFailure} (h : read registry token = .error reason) :
    reason.kind = .invalidFormat ↔ ∀ text, token = .text text → text.toList.count dot ≠ 2 := by
  by_cases hformat : ∀ text, token = .text text → text.toList.count dot ≠ 2
  · obtain ⟨other, hother, hkind⟩ := read_of_malformed registry hformat
    rw [h] at hother
    cases hother
    exact iff_of_true hkind hformat
  · refine iff_of_false ?_ hformat
    push Not at hformat
    obtain ⟨text, rfl, hcount⟩ := hformat
    obtain ⟨segments, hspells⟩ := exists_spells hcount
    obtain ⟨hflaw, hfault⟩ := hspells.reason_of_read h
    cases hheader : Header.decode registry segments.header with
    | error flaw =>
        rw [hflaw flaw hheader]
        exact Header.kind_of_decode hheader
    | ok header =>
        rw [(hfault header hheader).1]
        decide

/-- A token can be read if it is a text with two dots whose first segment is a header and whose
last one is the spelling of a byte string; the segment between does not matter.  What is read of a
token spells it, and a token that cannot be read is refused for its format first, for its header
next and for its signature last. -/
theorem decode_format (registry : Registry) :
    (∀ text : Text, text.toList.count dot = 2 ↔ ∃! segments, Spells text segments) ∧
    (∀ token, (∃ raw, (decode registry token).outcome = .ok raw) ↔
      ∃ text segments, token = .text text ∧ text.toList.count dot = 2 ∧ Spells text segments ∧
        (∃ header, Header.decode registry segments.header = .ok header) ∧
        Base64.Url.Canonical segments.signature) ∧
    (∀ header payload other signature : Text, dot ∉ payload.toList → dot ∉ other.toList →
      ((∃ raw, (decode registry
          (.text (header ++ "." ++ payload ++ "." ++ signature))).outcome = .ok raw) ↔
        ∃ raw, (decode registry
          (.text (header ++ "." ++ other ++ "." ++ signature))).outcome = .ok raw)) ∧
    (∀ token raw, (decode registry token).outcome = .ok raw →
      token = .text (raw.headerAndPayload ++ "." ++ Base64.Url.encode raw.signature) ∧
      ∃ header, Header.decode registry header = .ok raw.header ∧ dot ∉ header.toList ∧
        dot ∉ raw.payload.toList ∧ raw.headerAndPayload = header ++ "." ++ raw.payload) ∧
    (∀ token raw other otherRaw, (decode registry token).outcome = .ok raw →
      (decode registry other).outcome = .ok otherRaw →
      raw.headerAndPayload = otherRaw.headerAndPayload → raw.signature = otherRaw.signature →
      token = other) ∧
    (∀ token failure, (decode registry token).outcome = .error failure →
      ∃ reason, failure = .decode reason ∧
        (reason.kind = .invalidFormat ↔
          ∀ text, token = .text text → text.toList.count dot ≠ 2) ∧
        ∀ text segments, token = .text text → Spells text segments →
          (∀ flaw, Header.decode registry segments.header = .error flaw → reason = flaw) ∧
          (∀ header, Header.decode registry segments.header = .ok header →
            reason.kind = .base64DecodeError ∧
              ∃ fault, Base64.Url.decode segments.signature = .error fault ∧
                reason = .base64 fault)) := by
  simp only [outcome_decode_eq_ok_iff, outcome_decode_eq_error_iff]
  refine ⟨fun text => count_eq_two_iff, ?_, ?_, ?_, ?_, ?_⟩
  · intro token
    rw [exists_read_iff]
    refine exists₂_congr fun text segments => and_congr_right fun _ => ?_
    exact ⟨fun h => ⟨h.1.count_eq_two, h⟩, fun h => h.2⟩
  · intro header payload other signature hpayload hother
    rw [exists_read_around_iff hpayload, exists_read_around_iff hother]
  · exact fun token raw hread => eq_text_of_read hread
  · intro token raw other otherRaw hread hother hsigned hsignature
    rw [(eq_text_of_read hread).1, (eq_text_of_read hother).1, hsigned, hsignature]
  · rintro token failure ⟨reason, hread, rfl⟩
    refine ⟨reason, rfl, kind_of_read hread, ?_⟩
    rintro text segments rfl hspells
    exact hspells.reason_of_read hread

/-- An unsigned token is read and spelled again; nothing stands after its last dot. -/
theorem decode_format_of_unsigned :
    ∃ raw, (decode ⟨true, ⟨""⟩⟩ (.text "eyJhbGciOiJub25lIn0.MQ.")).outcome = .ok raw ∧
      Value.text "eyJhbGciOiJub25lIn0.MQ." =
        .text (raw.headerAndPayload ++ "." ++ Base64.Url.encode raw.signature) := by
  have hreads : (decode ⟨true, ⟨""⟩⟩ (.text "eyJhbGciOiJub25lIn0.MQ.")).outcome.isOk = true := by
    decide +kernel
  cases houtcome : (decode ⟨true, ⟨""⟩⟩ (.text "eyJhbGciOiJub25lIn0.MQ.")).outcome with
  | error failure =>
      rw [houtcome] at hreads
      cases hreads
  | ok raw =>
      obtain ⟨-, -, -, hspelled, -, -⟩ := decode_format ⟨true, ⟨""⟩⟩
      exact ⟨raw, rfl, (hspelled _ raw houtcome).1⟩

end RawToken

end SignedToken
