import SignedToken.Proofs.Guard.Stages
import SignedToken.Proofs.Header.Shape
import SignedToken.Proofs.Registry.Listing

/-!
# Tokens that declare what is switched off

The algorithm of a token is looked up while its header is read, so a token that
declares a disabled algorithm is stopped there and no verifier ever sees it.  The
name of unsigned tokens is not the name of an algorithm and is never looked up:
the settings have no say in whether such a token can be read.
-/

namespace SignedToken

namespace Registry

/-- A listed name declares nothing, unless it is the one of unsigned tokens. -/
theorem declared?_of_listed {registry : Registry} {name : Text}
    (hlisted : name ∈ registry.settings.disabledNames) (hname : name ≠ Declared.unsignedName) :
    registry.declared? name = none := by
  rw [declared?, if_neg hname, Option.map_eq_none_iff]
  by_contra hfound
  obtain ⟨algorithm, hfound⟩ := Option.ne_none_iff_exists'.mp hfound
  obtain ⟨rfl, henabled⟩ := find?_eq_some_iff.mp hfound
  exact (enabled_iff.mp henabled).2 (Settings.mem_disabledNames_iff.mp hlisted).2

end Registry

namespace Header

variable {entries : List (Value × Value)} {name : Text}

/-- The shape of a header may be wrong as well, which is told first. -/
theorem ofValue_of_undeclared {registry : Registry}
    (hname : member? "alg" entries = some (.text name))
    (hdeclared : registry.declared? name = none) :
    ∃ reason, ofValue registry (.dict entries) = .error reason := by
  rw [ofValue]
  cases hshape : checkShape (.dict entries) with
  | error issues => exact ⟨_, rfl⟩
  | ok shape =>
      have hdescribes := checkShape_dict_eq_ok_iff.mp hshape
      have hsame : shape.algorithm = name := by simpa [hname] using hdescribes.algorithm.symm
      refine ⟨.unknownAlgorithm (.text name) registry.enabledNames, ?_⟩
      simp only [ofShape, hsame, hdeclared]

/-- No registry is asked about the name of unsigned tokens. -/
theorem ofValue_of_unsigned (hname : member? "alg" entries = some (.text Declared.unsignedName))
    (registry other : Registry) :
    ofValue registry (.dict entries) = ofValue other (.dict entries) := by
  rw [ofValue, ofValue]
  cases hshape : checkShape (.dict entries) with
  | error issues => rfl
  | ok shape =>
      have hdescribes := checkShape_dict_eq_ok_iff.mp hshape
      have hsame : shape.algorithm = Declared.unsignedName := by
        simpa [hname] using hdescribes.algorithm.symm
      simp only [ofShape, hsame, Registry.declared?, if_true]

end Header

namespace RawToken

/-- A token of three segments whose header is a dict that names this algorithm. -/
def Declares (token : Value) (name : Text) : Prop :=
  ∃ text segments entries, token = .text text ∧ Spells text segments ∧
    Segment.decode .any segments.header = .ok (.dict entries) ∧
    Header.member? "alg" entries = some (.text name)

variable {token : Value} {name : Text}

/-- A name that declares nothing is noticed when the token is read. -/
theorem read_of_undeclared {registry : Registry} (h : Declares token name)
    (hdeclared : registry.declared? name = none) :
    ∃ reason, read registry token = .error reason ∧ reason.kind = .jsonDecodeError := by
  obtain ⟨text, segments, entries, rfl, hspells, hsegment, hname⟩ := h
  obtain ⟨reason, hreason⟩ := Header.ofValue_of_undeclared hname hdeclared
  refine ⟨reason, ?_, Header.kind_of_ofValue hreason⟩
  rw [hspells.read_eq, Header.decode, hsegment]
  simp only [hreason]
  rfl

theorem read_of_unsigned (h : Declares token Declared.unsignedName) (registry other : Registry) :
    read registry token = read other token := by
  obtain ⟨text, segments, entries, rfl, hspells, hsegment, hname⟩ := h
  rw [hspells.read_eq, hspells.read_eq, Header.decode, Header.decode, hsegment]
  simp only [Header.ofValue_of_unsigned hname registry other]

/-- A token that declares a name which the settings list cannot be read, and a guard refuses it as
malformed whatever its verifiers are.  The name of unsigned tokens is the exception: listing it
changes nothing, nor does any other setting, about whether and how such a token is read. -/
theorem disabled_name_refused (registry : Registry) :
    (∀ name ∈ registry.settings.disabledNames, name ≠ "none" → ∀ token, Declares token name →
      ∃ reason, reason.kind = .jsonDecodeError ∧
        (decode registry token).outcome = .error (.decode reason) ∧
        ∀ (guard : Guard) (request : Http.Request),
          (guard.extractor.extract request).outcome = .ok token →
          (guard.authenticate registry request).outcome =
              .error (.refused (Guard.malformed reason)) ∧
            guard.Aborts registry request 401 (.text "Malformed token")) ∧
    (∀ token, Declares token "none" → ∀ other : Registry,
      (decode other token).outcome = (decode registry token).outcome) := by
  constructor
  · intro name hlisted hname token hdeclares
    obtain ⟨reason, hread, hkind⟩ :=
      read_of_undeclared hdeclares (Registry.declared?_of_listed hlisted hname)
    have hdecode : (decode registry token).outcome = .error (.decode reason) :=
      outcome_decode_eq_error_iff.mpr ⟨reason, hread, rfl⟩
    refine ⟨reason, hkind, hdecode, fun guard request hfound => ⟨?_, ?_⟩⟩
    · exact Guard.authenticate_of_malformed hfound hdecode
    · exact .malformed token _ hfound hdecode
  · intro token hdeclares other
    rw [outcome_decode, outcome_decode, read_of_unsigned hdeclares other registry]

/-- The name of the algorithm in a header, whatever else is right or wrong with it. -/
private def declaredName? : Value → Option Text
  | .dict entries =>
    match Header.member? "alg" entries with
    | some (.text name) => some name
    | _ => none
  | _ => none

private theorem exists_entries_of_declaredName? {value : Value}
    (h : declaredName? value = some name) :
    ∃ entries, value = .dict entries ∧ Header.member? "alg" entries = some (.text name) := by
  unfold declaredName? at h
  split at h
  · split at h
    · rename_i hname
      cases h
      exact ⟨_, rfl, hname⟩
    · cases h
  · cases h

private theorem declares_of_any {text : Text} {segments : Segments}
    (hspells : Spells text segments)
    (h : (Segment.decode .any segments.header).toOption.any (declaredName? · == some name) = true) :
    Declares (.text text) name := by
  obtain ⟨value, hsegment, hname⟩ := exists_ok_of_any h
  obtain ⟨entries, rfl, hmember⟩ := exists_entries_of_declaredName? (eq_of_beq hname)
  exact ⟨text, segments, entries, rfl, hspells, hsegment, hmember⟩

private theorem declares_unsigned : Declares (.text "eyJhbGciOiJub25lIn0.MQ.") "none" := by
  have hspells : Spells "eyJhbGciOiJub25lIn0.MQ."
      ⟨"eyJhbGciOiJub25lIn0.MQ", "eyJhbGciOiJub25lIn0", "MQ", ""⟩ :=
    ⟨rfl, rfl, by decide, by decide, by decide⟩
  exact declares_of_any hspells (by decide +kernel)

/-- An unsigned token is read although its name is listed. -/
theorem unsigned_token_read_when_listed :
    ("none" : Text) ∈ Settings.disabledNames ⟨"none"⟩ ∧
      Declares (.text "eyJhbGciOiJub25lIn0.MQ.") "none" ∧
      ∃ raw, (decode ⟨true, ⟨"none"⟩⟩ (.text "eyJhbGciOiJub25lIn0.MQ.")).outcome = .ok raw := by
  have hreads : (decode ⟨true, ⟨"none"⟩⟩
      (.text "eyJhbGciOiJub25lIn0.MQ.")).outcome.toOption.any (fun _ => true) = true := by
    decide +kernel
  obtain ⟨raw, hread, -⟩ := exists_ok_of_any hreads
  exact ⟨by decide, declares_unsigned, raw, hread⟩

/-- Settings that list an algorithm between blanks, and the name of unsigned tokens. -/
private def listingUnsigned : Registry := ⟨true, ⟨" HS256 ,none"⟩⟩

/-- A token with the code of the secret `k`, and a guard whose verifier has this secret and lets
headers without a key id pass. -/
private def listedToken : String :=
  "eyJhbGciOiJIUzI1NiIsImtpZCI6ImEifQ.MQ.k_4cgjhRZU7-oFKVgiesplayzSd9YqjuH5mHGAWso94"

private def waivingGuard : Guard where
  verifiers := [.withKeyId "a" (.key (.secret .sha256 [107])) true]
  claimsType := .schema .any
  extractor := .supplied (.ok (.text listedToken)) true

theorem disabled_name_refused_of_listed :
    waivingGuard.Aborts listingUnsigned ⟨[], "/"⟩ 401 (.text "Malformed token") ∧
      (decode listingUnsigned (.text "eyJhbGciOiJub25lIn0.MQ.")).outcome =
        (decode ⟨true, ⟨""⟩⟩ (.text "eyJhbGciOiJub25lIn0.MQ.")).outcome := by
  obtain ⟨hrefuses, hunsigned⟩ := disabled_name_refused listingUnsigned
  constructor
  · have hspells : Spells listedToken
        ⟨"eyJhbGciOiJIUzI1NiIsImtpZCI6ImEifQ.MQ", "eyJhbGciOiJIUzI1NiIsImtpZCI6ImEifQ", "MQ",
          "k_4cgjhRZU7-oFKVgiesplayzSd9YqjuH5mHGAWso94"⟩ :=
      ⟨rfl, rfl, by decide, by decide, by decide⟩
    have hdeclares : Declares (.text listedToken) "HS256" :=
      declares_of_any hspells (by decide +kernel)
    obtain ⟨reason, -, -, hguards⟩ :=
      hrefuses "HS256" (by decide) (by decide) (.text listedToken) hdeclares
    exact (hguards waivingGuard ⟨[], "/"⟩ rfl).2
  · exact (hunsigned _ declares_unsigned ⟨true, ⟨""⟩⟩).symm

end RawToken

end SignedToken
