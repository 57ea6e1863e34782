import SignedToken.Proofs.Guard.Stages
import SignedToken.Proofs.Keyholder.Width

/-!
# What the log and the refusals show

Two requests are compared whose tokens differ in their claims and signatures, to
two guards whose verifiers differ in their keys.  As long as the verifiers that
are consulted reply alike and the claims are wanted alike, every step leaves the
same remarks, so the two logs are the same line by line, and so are the pages
that the requests end with.  Failures are alike that are of one kind.  The words
in which an application refuses a request show as they are, and so these have to
be the same besides.
-/

namespace SignedToken

/-! ## What is seen from outside -/

/-- Outcomes that show the same are both failures or both results. -/
theorem cases_of_shown_eq {ε ε' ζ α α' γ : Type} {outcome : Except ε α} {other : Except ε' α'}
    {tell : ε → ζ} {otherTell : ε' → ζ} {look : α → γ} {otherLook : α' → γ}
    (h : (outcome.mapError tell).map look = (other.mapError otherTell).map otherLook) :
    (∃ failure otherFailure, outcome = .error failure ∧ other = .error otherFailure ∧
        tell failure = otherTell otherFailure) ∨
      ∃ result otherResult, outcome = .ok result ∧ other = .ok otherResult ∧
        look result = otherLook otherResult := by
  cases outcome with
  | error failure =>
      cases other with
      | error otherFailure => exact .inl ⟨failure, otherFailure, rfl, rfl, Except.error.inj h⟩
      | ok otherResult => cases h
  | ok result =>
      cases other with
      | error otherFailure => cases h
      | ok otherResult => exact .inr ⟨result, otherResult, rfl, rfl, Except.ok.inj h⟩

namespace Refusal

/-- What a refusal says: its message to the log, and its status and description to the client. -/
def words (refusal : Refusal) : Text × Nat × Value :=
  (refusal.message, refusal.status, refusal.description)

end Refusal

namespace Failure

/-- What a refusal says to others; whoever refuses the request words it. -/
def told? : Failure → Option (Text × Nat × Value)
  | .refused refusal => some refusal.words
  | _ => none

/-- What is seen of a failure: its kind, and the words of a refusal. -/
def seen (failure : Failure) : ErrorKind × Option (Text × Nat × Value) :=
  (failure.kind, failure.told?)

variable {failure other : Failure}

theorem isCaseOf_authError_iff :
    failure.kind.isCaseOf .authError = true ↔ ∃ refusal, failure = .refused refusal := by
  cases failure with
  | refused refusal =>
      have hkind : refusal.kind.kind.isCaseOf .authError = true := by
        cases refusal.kind <;> rfl
      exact iff_of_true hkind ⟨refusal, rfl⟩
  | decode reason => cases reason <;> simp [kind, DecodeFailure.kind, ErrorKind.isCaseOf,
      ErrorKind.lineage]
  | key family reason => cases family <;> simp [kind, KeyFailure.kind, ErrorKind.isCaseOf,
      ErrorKind.lineage]
  | load fault => cases fault <;> simp [kind, LoadFault.kind, ErrorKind.isCaseOf,
      ErrorKind.lineage]
  | _ => simp [kind, ErrorKind.isCaseOf, ErrorKind.lineage]

theorem isCaseOf_decodeError_iff :
    failure.kind.isCaseOf .decodeError = true ↔ ∃ reason, failure = .decode reason := by
  cases failure with
  | decode reason =>
      have hkind : reason.kind.isCaseOf .decodeError = true := by cases reason <;> rfl
      exact iff_of_true hkind ⟨reason, rfl⟩
  | refused refusal => cases hrefusal : refusal.kind <;>
      simp [kind, hrefusal, RefusalKind.kind, ErrorKind.isCaseOf, ErrorKind.lineage]
  | key family reason => cases family <;> simp [kind, KeyFailure.kind, ErrorKind.isCaseOf,
      ErrorKind.lineage]
  | load fault => cases fault <;> simp [kind, LoadFault.kind, ErrorKind.isCaseOf,
      ErrorKind.lineage]
  | _ => simp [kind, ErrorKind.isCaseOf, ErrorKind.lineage]

/-- Failures of one kind are seen alike, unless they are refusals in different words. -/
theorem seen_eq_of_kind_eq (hkind : failure.kind = other.kind)
    (hwords : ∀ refusal otherRefusal, failure = .refused refusal → other = .refused otherRefusal →
      refusal.words = otherRefusal.words) :
    failure.seen = other.seen := by
  have hcase : (∃ refusal, failure = .refused refusal) ↔ ∃ refusal, other = .refused refusal := by
    rw [← isCaseOf_authError_iff, ← isCaseOf_authError_iff, hkind]
  apply Prod.ext hkind
  by_cases hrefused : ∃ refusal, failure = .refused refusal
  · obtain ⟨otherRefusal, rfl⟩ := hcase.mp hrefused
    obtain ⟨refusal, rfl⟩ := hrefused
    exact congrArg some (hwords refusal otherRefusal rfl rfl)
  · have hnone {failure : Failure} (h : ¬∃ refusal, failure = .refused refusal) :
        failure.told? = none := by
      cases failure with
      | refused refusal => exact absurd ⟨refusal, rfl⟩ h
      | _ => rfl
    exact (hnone hrefused).trans (hnone (hcase.not.mp hrefused)).symm

end Failure

namespace Traced

variable {α β γ δ ζ α' β' : Type}

/-- What is seen of a computation: its remarks, and as much of its failure as `tell` says or of its
result as `look` shows. -/
def seen (tell : Failure → ζ) (look : α → γ) (computation : Traced α) :
    Except ζ γ × List Remark :=
  ((computation.outcome.mapError tell).map look, remarks computation.events)

theorem remarks_append (events more : List Event) :
    remarks (events ++ more) = remarks events ++ remarks more :=
  List.filterMap_append

variable {first : Traced α} {other : Traced α'} {tell : Failure → ζ} {look : α → γ}
  {otherLook : α' → γ}

/-- Computations that are seen alike both fail or both come to a result. -/
theorem cases_of_seen_eq (h : first.seen tell look = other.seen tell otherLook) :
    (∃ failure otherFailure, first.outcome = .error failure ∧
        other.outcome = .error otherFailure ∧ tell failure = tell otherFailure) ∨
      ∃ result otherResult, first.outcome = .ok result ∧ other.outcome = .ok otherResult ∧
        look result = otherLook otherResult :=
  cases_of_shown_eq (congrArg Prod.fst h)

/-- Computations that are seen alike, and go on alike, are seen alike as a whole. -/
theorem seen_bind_congr {next : α → Traced β} {otherNext : α' → Traced β'} {glance : β → δ}
    {otherGlance : β' → δ} (h : first.seen tell look = other.seen tell otherLook)
    (hnext : ∀ result otherResult, first.outcome = .ok result →
      other.outcome = .ok otherResult → look result = otherLook otherResult →
      (next result).seen tell glance = (otherNext otherResult).seen tell otherGlance) :
    (first >>= next).seen tell glance = (other >>= otherNext).seen tell otherGlance := by
  have hremarks : remarks first.events = remarks other.events := congrArg Prod.snd h
  obtain ⟨failure, otherFailure, hfirst, hother, hseen⟩ | ⟨result, otherResult, hfirst, hother,
    hlook⟩ := cases_of_seen_eq h
  · rw [bind_of_error hfirst, bind_of_error hother]
    exact Prod.ext (congrArg Except.error hseen) hremarks
  · have hrest := hnext result otherResult hfirst hother hlook
    rw [bind_of_ok hfirst, bind_of_ok hother]
    have houtcome := congrArg Prod.fst hrest
    apply Prod.ext
    · exact houtcome
    · calc remarks (first.events ++ (next result).events)
          = remarks first.events ++ remarks (next result).events := remarks_append _ _
        _ = remarks other.events ++ remarks (otherNext otherResult).events := by
            rw [hremarks]
            exact congrArg _ (congrArg Prod.snd hrest)
        _ = remarks (other.events ++ (otherNext otherResult).events) :=
            (remarks_append _ _).symm

/-- Of computations that fail alike by kind, refusals in the same words are all that is left to be
known. -/
theorem seen_of_kind (h : first.seen Failure.kind look = other.seen Failure.kind otherLook)
    (hwords : ∀ refusal otherRefusal, first.outcome = .error (.refused refusal) →
      other.outcome = .error (.refused otherRefusal) → refusal.words = otherRefusal.words) :
    first.seen Failure.seen look = other.seen Failure.seen otherLook := by
  apply Prod.ext
  · obtain ⟨failure, otherFailure, hfirst, hother, hkind⟩ | ⟨result, otherResult, hfirst, hother,
      hlook⟩ := cases_of_seen_eq h
    · have hseen : failure.seen = otherFailure.seen := by
        apply Failure.seen_eq_of_kind_eq hkind
        rintro refusal otherRefusal rfl rfl
        exact hwords refusal otherRefusal hfirst hother
      simp only [seen, hfirst, hother]
      exact congrArg Except.error hseen
    · simp only [seen, hfirst, hother]
      exact congrArg Except.ok hlook
  · have hremarks : remarks first.events = remarks other.events := congrArg Prod.snd h
    exact hremarks

end Traced

/-! ## Verifiers with other keys -/

namespace Keyholder

/-- Key holders of the same kinds, in wrappers with the same key ids. -/
inductive SameButKeys : Keyholder → Keyholder → Prop where
  | key (backend other : Backend) (kind_eq : backend.kind = other.kind) :
      SameButKeys (.key backend) (.key other)
  | withKeyId (keyId : Text) (inner other : Keyholder) (acceptMissing otherAccepts : Bool)
      (inside : SameButKeys inner other) :
      SameButKeys (.withKeyId keyId inner acceptMissing) (.withKeyId keyId other otherAccepts)
  | scripted (script other : Script) : SameButKeys (.scripted script) (.scripted other)

variable {verifier other : Keyholder}

theorem SameButKeys.name_eq (h : SameButKeys verifier other) : verifier.name = other.name := by
  cases h with
  | key backend other kind_eq => exact congrArg BackendKind.name kind_eq
  | withKeyId keyId inner other acceptMissing otherAccepts inside => rfl
  | scripted script other => rfl

theorem remarks_toTraced (reply : Reply) : Traced.remarks reply.toTraced.events = [] := by
  cases reply <;> rfl

/-- A wrapper remarks on its own key id only. -/
theorem SameButKeys.remarks_checkHeader (h : SameButKeys verifier other) (header : Header) :
    Traced.remarks (verifier.checkHeader header).events =
      Traced.remarks (other.checkHeader header).events := by
  induction h with
  | key backend other kind_eq => rfl
  | withKeyId keyId inner other acceptMissing otherAccepts inside ih =>
      rw [checkHeader, checkHeader]
      cases header.keyId with
      | none => rfl
      | some given =>
          by_cases hsame : given = keyId
          · simpa only [if_pos hsame] using ih
          · simp only [if_neg hsame]
  | scripted script other =>
      calc Traced.remarks (script.onHeader.toTraced).events
          = Traced.remarks (other.onHeader.toTraced).events := by
            rw [remarks_toTraced, remarks_toTraced]

theorem remarks_checkSignature (verifier : Keyholder) (message signature : Bytes) :
    Traced.remarks (verifier.checkSignature message signature).events = [] := by
  induction verifier with
  | key backend => rfl
  | withKeyId keyId inner acceptMissing ih => exact ih
  | scripted script => exact remarks_toTraced script.onSignature

end Keyholder

/-! ## Searches -/

namespace RawToken

open Keyholder

variable {raw otherRaw : RawToken} {verifier other : Keyholder}
  {verifiers others : List Keyholder}

/-- Whether two verifiers reply alike about two tokens: about the headers, and about the signatures
if the headers are accepted.  Failures of one kind are alike. -/
structure RepliesAlike (raw otherRaw : RawToken) (verifier other : Keyholder) : Prop where
  header : (verifier.checkHeader raw.header).outcome.mapError Failure.kind =
    (other.checkHeader otherRaw.header).outcome.mapError Failure.kind
  signature : (verifier.checkHeader raw.header).outcome = .ok true →
    ∀ message otherMessage, raw.message? = some message → otherRaw.message? = some otherMessage →
      (verifier.checkSignature message raw.signature).outcome.mapError Failure.kind =
        (other.checkSignature otherMessage otherRaw.signature).outcome.mapError Failure.kind

/-- Whether the verifiers that two searches come to reply alike.  A search comes to a verifier if
the ones before it neither accept nor fail. -/
def ConsultedAlike (raw otherRaw : RawToken) (verifiers others : List Keyholder) : Prop :=
  ∀ place verifier other, verifiers[place]? = some verifier → others[place]? = some other →
    (raw.verifyAny (verifiers.take place)).outcome = .ok false →
    (otherRaw.verifyAny (others.take place)).outcome = .ok false →
    RepliesAlike raw otherRaw verifier other

variable {message otherMessage : Bytes}

theorem ConsultedAlike.head
    (h : ConsultedAlike raw otherRaw (verifier :: verifiers) (other :: others))
    (hmessage : raw.message? = some message)
    (hotherMessage : otherRaw.message? = some otherMessage) :
    RepliesAlike raw otherRaw verifier other :=
  h 0 verifier other rfl rfl (verifyAny_nil hmessage) (verifyAny_nil hotherMessage)

theorem ConsultedAlike.tail
    (h : ConsultedAlike raw otherRaw (verifier :: verifiers) (other :: others))
    (hverifier : (raw.verify verifier).outcome = .ok false)
    (hother : (otherRaw.verify other).outcome = .ok false) :
    ConsultedAlike raw otherRaw verifiers others := by
  intro place next otherNext hnext hotherNext hbefore hotherBefore
  apply h (place + 1) next otherNext hnext hotherNext
  · exact verifyAny_cons_eq_false_iff.mpr ⟨hverifier, hbefore⟩
  · exact verifyAny_cons_eq_false_iff.mpr ⟨hother, hotherBefore⟩

/-- The search for a verifier of a message, without its last remark. -/
private def search (raw : RawToken) (message : Bytes) (verifiers : List Keyholder) : Traced Bool :=
  Dispatch.firstAccepting (checkHeader raw.header) (checkSignature message raw.signature)
    (fun verifier => Traced.remark (.signatureVerified verifier.name)) (verifiers.map pure)

private theorem search_cons (raw : RawToken) (message : Bytes) (verifier : Keyholder)
    (verifiers : List Keyholder) :
    raw.search message (verifier :: verifiers) =
      verifier.checkHeader raw.header >>= fun accepted =>
        if accepted then
          verifier.checkSignature message raw.signature >>= fun verified =>
            if verified then
              Traced.remark (.signatureVerified verifier.name) >>= fun _ => pure true
            else raw.search message verifiers
        else raw.search message verifiers := rfl

private theorem seen_search (hheader : raw.header = otherRaw.header)
    (hmessage : raw.message? = some message) (hotherMessage : otherRaw.message? = some otherMessage)
    (hverifiers : List.Forall₂ SameButKeys verifiers others)
    (hreplies : ConsultedAlike raw otherRaw verifiers others) :
    (raw.search message verifiers).seen Failure.kind id =
      (otherRaw.search otherMessage others).seen Failure.kind id := by
  -- On the verifiers: that those after the first reply alike is known, and needed, only where both
  -- searches go on to them.
  induction hverifiers with
  | nil => simp only [search, List.map_nil, Dispatch.firstAccepting]
  | @cons verifier other verifiers others hsame hrest ih =>
      have hhead := hreplies.head hmessage hotherMessage
      have hheaders : (verifier.checkHeader raw.header).seen Failure.kind id =
          (other.checkHeader otherRaw.header).seen Failure.kind id := by
        apply Prod.ext
        · exact congrArg (Except.map id) hhead.header
        · rw [hheader]
          exact hsame.remarks_checkHeader otherRaw.header
      rw [search_cons, search_cons]
      apply Traced.seen_bind_congr hheaders
      intro accepted otherAccepted haccepted hotherAccepted heq
      obtain rfl : accepted = otherAccepted := heq
      cases accepted with
      | false =>
          apply ih (hreplies.tail _ _)
          · rw [outcome_verify, haccepted]
            rfl
          · rw [outcome_verify, hotherAccepted]
            rfl
      | true =>
          have hsignatures : (verifier.checkSignature message raw.signature).seen Failure.kind id =
              (other.checkSignature otherMessage otherRaw.signature).seen Failure.kind id := by
            apply Prod.ext
            · exact congrArg (Except.map id)
                (hhead.signature haccepted message otherMessage hmessage hotherMessage)
            · exact (remarks_checkSignature verifier _ _).trans
                (remarks_checkSignature other _ _).symm
          apply Traced.seen_bind_congr hsignatures
          intro verified otherVerified hverified hotherVerified heq
          obtain rfl : verified = otherVerified := heq
          cases verified with
          | false =>
              apply ih (hreplies.tail _ _)
              · rw [outcome_verify, haccepted, encoded_of_message? hmessage]
                exact hverified
              · rw [outcome_verify, hotherAccepted, encoded_of_message? hotherMessage]
                exact hotherVerified
          | true =>
              simp only [if_true, hsame.name_eq]

private theorem verifyAny_eq_search (h : raw.message? = some message)
    (verifiers : List Keyholder) :
    raw.verifyAny verifiers = raw.search message verifiers >>= fun accepted =>
      if !accepted then
        Traced.remark (.noVerifierAccepted raw.header.algorithm raw.header.keyId) >>= fun _ =>
          pure accepted
      else pure accepted := by
  rw [verifyAny, verifyAnyBy, messageBy_of_message? protocol h]
  rfl

theorem seen_verifyAny (hheader : raw.header = otherRaw.header)
    (hmessage : raw.message? = some message) (hotherMessage : otherRaw.message? = some otherMessage)
    (hverifiers : List.Forall₂ SameButKeys verifiers others)
    (hreplies : ConsultedAlike raw otherRaw verifiers others) :
    (raw.verifyAny verifiers).seen Failure.kind id =
      (otherRaw.verifyAny others).seen Failure.kind id := by
  rw [verifyAny_eq_search hmessage, verifyAny_eq_search hotherMessage]
  apply Traced.seen_bind_congr (seen_search hheader hmessage hotherMessage hverifiers hreplies)
  intro accepted otherAccepted _ _ heq
  obtain rfl : accepted = otherAccepted := heq
  rw [hheader]

/-! ## Reading -/

variable {registry : Registry} {token : Value}

theorem seen_decode_of_ok (h : read registry token = .ok raw) :
    ((decode registry token).mapFailure (Guard.asRefusal Guard.malformed)).seen Failure.seen
      RawToken.header =
      (.ok raw.header, []) := by
  rw [decode, h]
  cases consultsSettings registry token <;> rfl

theorem seen_decode_of_error {reason : DecodeFailure} (h : read registry token = .error reason) :
    ((decode registry token).mapFailure (Guard.asRefusal Guard.malformed)).seen Failure.seen
      RawToken.header =
      (.error (Failure.refused (Guard.malformed reason)).seen, [.tokenMalformed reason.kind]) := by
  rw [decode, h]
  cases consultsSettings registry token <;> rfl

/-- Of a token whose signature can be read, only the header shows. -/
theorem Spells.seen_decode {text otherText : Text} {segments otherSegments : Segments}
    (h : Spells text segments) (hother : Spells otherText otherSegments)
    (hheader : segments.header = otherSegments.header)
    (hsignature : Base64.Url.Canonical segments.signature)
    (hotherSignature : Base64.Url.Canonical otherSegments.signature) :
    ((decode registry (.text text)).mapFailure (Guard.asRefusal Guard.malformed)).seen
        Failure.seen RawToken.header =
      ((decode registry (.text otherText)).mapFailure (Guard.asRefusal Guard.malformed)).seen
        Failure.seen RawToken.header := by
  cases hdecode : Header.decode registry segments.header with
  | error reason =>
      have hread : read registry (.text text) = .error reason := by
        rw [h.read_eq, hdecode]
        rfl
      have hotherRead : read registry (.text otherText) = .error reason := by
        rw [hother.read_eq, ← hheader, hdecode]
        rfl
      rw [seen_decode_of_error hread, seen_decode_of_error hotherRead]
  | ok header =>
      obtain ⟨raw, hread⟩ := h.exists_read_iff.mpr ⟨⟨header, hdecode⟩, hsignature⟩
      obtain ⟨otherRaw, hotherRead⟩ :=
        hother.exists_read_iff.mpr ⟨⟨header, hheader ▸ hdecode⟩, hotherSignature⟩
      have hraw := (h.read_eq_ok_iff.mp hread).1
      have hotherRaw := (hother.read_eq_ok_iff.mp hotherRead).1
      rw [← hheader, hraw] at hotherRaw
      rw [seen_decode_of_ok hread, seen_decode_of_ok hotherRead, Except.ok.inj hotherRaw]

end RawToken

/-! ## Requests -/

/-- An extractor that finds something leaves no remark. -/
theorem Extractor.events_of_found {extractor : Extractor} {request : Http.Request} {token : Value}
    (h : (extractor.extract request).outcome = .ok token) :
    (extractor.extract request).events = [] := by
  cases extractor with
  | bearer field scheme =>
      unfold extract extractBearer at *
      dsimp only at *
      split_ifs at h ⊢
      · cases h
      · cases h
      · cases h
      · rfl
  | cookie name =>
      unfold extract extractCookie at *
      dsimp only at *
      split_ifs at h ⊢
      · cases h
      · rfl
  | supplied reply truth => rfl

namespace Guard

variable {registry : Registry} {guard other : Guard} {request otherRequest : Http.Request}

/-- The token that a guard reads of a request. -/
def Receives (registry : Registry) (guard : Guard) (request : Http.Request) (raw : RawToken) :
    Prop :=
  ∃ token, (guard.extractor.extract request).outcome = .ok token ∧
    (RawToken.decode registry token).outcome = .ok raw

/-- A token is read of the text that is found. -/
theorem Receives.of_spells {raw : RawToken} {text : Text} {segments : RawToken.Segments}
    (h : guard.Receives registry request raw)
    (hfound : (guard.extractor.extract request).outcome = .ok (.text text))
    (hspells : RawToken.Spells text segments) :
    Header.decode registry segments.header = .ok raw.header ∧
      Base64.Url.encode raw.signature = segments.signature := by
  obtain ⟨token, htoken, hdecode⟩ := h
  obtain rfl : Value.text text = token := Except.ok.inj (hfound.symm.trans htoken)
  have hread := hspells.read_eq_ok_iff.mp (RawToken.outcome_decode_eq_ok_iff.mp hdecode)
  exact ⟨hread.1, hread.2.1⟩

/-- What is known of a reading of claims: that they are wanted, or the kind of the failure. -/
def claimed (claims : Except Failure Value) : Except ErrorKind Unit :=
  (claims.mapError Failure.kind).map fun _ => ()

/-- Two requests to two guards that differ in nothing that may show. -/
structure Counterparts (registry : Registry) (guard other : Guard)
    (request otherRequest : Http.Request) : Prop where
  path_eq : request.path = otherRequest.path
  tokens : ∃ (text otherText : String) (segments otherSegments : RawToken.Segments),
    (guard.extractor.extract request).outcome = .ok (.text text) ∧
    (other.extractor.extract otherRequest).outcome = .ok (.text otherText) ∧
    RawToken.Spells text segments ∧ RawToken.Spells otherText otherSegments ∧
    segments.header = otherSegments.header ∧ Base64.Url.Canonical segments.signature ∧
    Base64.Url.Canonical otherSegments.signature
  verifiers : List.Forall₂ Keyholder.SameButKeys guard.verifiers other.verifiers
  replies : ∀ raw otherRaw, guard.Receives registry request raw →
    other.Receives registry otherRequest otherRaw →
    RawToken.ConsultedAlike raw otherRaw guard.verifiers other.verifiers
  claims : ∀ raw otherRaw, guard.Receives registry request raw →
    other.Receives registry otherRequest otherRaw →
    (raw.verifyAny guard.verifiers).outcome = .ok true →
    claimed (raw.claims guard.claimsType) = claimed (otherRaw.claims other.claimsType)

/-- Whether two requests to two guards are refused in the same words, where an application words
refusals of its own. -/
structure WordedAlike (registry : Registry) (guard other : Guard)
    (request otherRequest : Http.Request) : Prop where
  verifiers : ∀ raw otherRaw refusal otherRefusal, guard.Receives registry request raw →
    other.Receives registry otherRequest otherRaw →
    (raw.verifyAny guard.verifiers).outcome = .error (.refused refusal) →
    (otherRaw.verifyAny other.verifiers).outcome = .error (.refused otherRefusal) →
    refusal.words = otherRefusal.words
  claims : ∀ raw otherRaw refusal otherRefusal, guard.Receives registry request raw →
    other.Receives registry otherRequest otherRaw →
    (raw.verifyAny guard.verifiers).outcome = .ok true →
    raw.claims guard.claimsType = .error (.refused refusal) →
    otherRaw.claims other.claimsType = .error (.refused otherRefusal) →
    refusal.words = otherRefusal.words

/-- Of claims that are not wanted, only the kind of the failure shows. -/
theorem seen_unwantedClaims {failure otherFailure : DecodeFailure}
    (h : failure.kind = otherFailure.kind) :
    (Failure.refused (unwantedClaims failure)).seen =
      (Failure.refused (unwantedClaims otherFailure)).seen := by
  simp only [Failure.seen, Failure.kind, Failure.told?, Refusal.words, unwantedClaims, h]

/-- Claims that are not wanted look the same if the failures are of one kind, and
refusals say the same. -/
theorem seen_asRefusal {failure otherFailure : Failure} (hkind : failure.kind = otherFailure.kind)
    (hwords : ∀ refusal otherRefusal, failure = .refused refusal →
      otherFailure = .refused otherRefusal → refusal.words = otherRefusal.words) :
    (asRefusal unwantedClaims failure).seen = (asRefusal unwantedClaims otherFailure).seen := by
  have hcase : (∃ reason, failure = .decode reason) ↔ ∃ reason, otherFailure = .decode reason := by
    rw [← Failure.isCaseOf_decodeError_iff, ← Failure.isCaseOf_decodeError_iff, hkind]
  by_cases hreadable : ∃ reason, failure = .decode reason
  · obtain ⟨otherReason, rfl⟩ := hcase.mp hreadable
    obtain ⟨reason, rfl⟩ := hreadable
    exact seen_unwantedClaims hkind
  · rw [asRefusal_of_readable (not_exists.mp hreadable),
      asRefusal_of_readable (not_exists.mp (hcase.not.mp hreadable))]
    exact Failure.seen_eq_of_kind_eq hkind hwords

/-- The last stage, on a token that was verified or not. -/
private def settle (guard : Guard) (raw : RawToken) (accepted : Bool) : Traced TokenData :=
  if accepted then do
    let claims ← (Traced.ofExcept (raw.claims guard.claimsType)).mapFailure
      (asRefusal unwantedClaims)
    return ⟨raw.header, claims⟩
  else Traced.fail (.refused unverified)

private theorem seen_settle {raw otherRaw : RawToken} (accepted : Bool)
    (hclaims : accepted = true →
      claimed (raw.claims guard.claimsType) = claimed (otherRaw.claims other.claimsType))
    (hwords : ∀ refusal otherRefusal, accepted = true →
      raw.claims guard.claimsType = .error (.refused refusal) →
      otherRaw.claims other.claimsType = .error (.refused otherRefusal) →
      refusal.words = otherRefusal.words) :
    (guard.settle raw accepted).seen Failure.seen (fun _ => ()) =
      (other.settle otherRaw accepted).seen Failure.seen (fun _ => ()) := by
  cases accepted with
  | false => rfl
  | true =>
      have hseen : ((Traced.ofExcept (raw.claims guard.claimsType)).mapFailure
            (asRefusal unwantedClaims)).seen Failure.seen (fun _ => ()) =
          ((Traced.ofExcept (otherRaw.claims other.claimsType)).mapFailure
            (asRefusal unwantedClaims)).seen Failure.seen (fun _ => ()) := by
        obtain ⟨failure, otherFailure, hfirst, hother, hkind⟩ |
          ⟨claims, otherClaims, hfirst, hother, -⟩ := cases_of_shown_eq (hclaims rfl)
        · have hsame : (asRefusal unwantedClaims failure).seen =
              (asRefusal unwantedClaims otherFailure).seen := by
            apply seen_asRefusal hkind
            rintro refusal otherRefusal rfl rfl
            exact hwords refusal otherRefusal rfl hfirst hother
          rw [hfirst, hother]
          exact Prod.ext (congrArg Except.error hsame) rfl
        · rw [hfirst, hother]
          rfl
      apply Traced.seen_bind_congr hseen
      intro claims otherClaims _ _ _
      rfl

private theorem outcome_of_mapFailure {α : Type} {change : Failure → Failure}
    {computation : Traced α} {result : α}
    (h : (computation.mapFailure change).outcome = .ok result) :
    computation.outcome = .ok result := by
  cases houtcome : computation.outcome with
  | ok found =>
      rw [Traced.mapFailure, houtcome] at h
      exact h
  | error failure =>
      rw [Traced.mapFailure, houtcome] at h
      cases h

/-- A token that is received was made from text without lone surrogates. -/
private theorem Counterparts.exists_messages
    (h : Counterparts registry guard other request otherRequest) {raw otherRaw : RawToken}
    (hreceives : guard.Receives registry request raw)
    (hotherReceives : other.Receives registry otherRequest otherRaw) :
    (∃ message, raw.message? = some message) ∧
      ∃ otherMessage, otherRaw.message? = some otherMessage := by
  obtain ⟨text, otherText, -, -, hfound, hotherFound, -⟩ := h.tokens
  constructor
  · obtain ⟨token, htoken, hdecode⟩ := hreceives
    obtain rfl : Value.text text = token := Except.ok.inj (hfound.symm.trans htoken)
    exact RawToken.exists_message?_of_read (RawToken.outcome_decode_eq_ok_iff.mp hdecode)
  · obtain ⟨token, htoken, hdecode⟩ := hotherReceives
    obtain rfl : Value.text otherText = token := Except.ok.inj (hotherFound.symm.trans htoken)
    exact RawToken.exists_message?_of_read (RawToken.outcome_decode_eq_ok_iff.mp hdecode)

/-- The stages behind the reading of the tokens are seen alike. -/
private theorem Counterparts.seen_verdicts
    (h : Counterparts registry guard other request otherRequest)
    (hwords : WordedAlike registry guard other request otherRequest) {raw otherRaw : RawToken}
    (hreceives : guard.Receives registry request raw)
    (hotherReceives : other.Receives registry otherRequest otherRaw)
    (hheader : raw.header = otherRaw.header) :
    (raw.verifyAny guard.verifiers >>= guard.settle raw).seen Failure.seen (fun _ => ()) =
      (otherRaw.verifyAny other.verifiers >>= other.settle otherRaw).seen Failure.seen
        (fun _ => ()) := by
  obtain ⟨⟨message, hmessage⟩, otherMessage, hotherMessage⟩ :=
    h.exists_messages hreceives hotherReceives
  have hverifies : (raw.verifyAny guard.verifiers).seen Failure.seen id =
      (otherRaw.verifyAny other.verifiers).seen Failure.seen id := by
    apply Traced.seen_of_kind (RawToken.seen_verifyAny hheader hmessage hotherMessage h.verifiers
      (h.replies raw otherRaw hreceives hotherReceives))
    intro refusal otherRefusal
    exact hwords.verifiers raw otherRaw refusal otherRefusal hreceives hotherReceives
  apply Traced.seen_bind_congr hverifies
  intro accepted otherAccepted haccepted _ heq
  obtain rfl : accepted = otherAccepted := heq
  apply seen_settle
  · intro htrue
    rw [htrue] at haccepted
    exact h.claims raw otherRaw hreceives hotherReceives haccepted
  · intro refusal otherRefusal htrue
    rw [htrue] at haccepted
    exact hwords.claims raw otherRaw refusal otherRefusal hreceives hotherReceives haccepted

/-- All stages leave the same remarks, and end in ways that are seen alike. -/
theorem Counterparts.seen_authenticate
    (h : Counterparts registry guard other request otherRequest)
    (hwords : WordedAlike registry guard other request otherRequest) :
    (guard.authenticate registry request).seen Failure.seen (fun _ => ()) =
      (other.authenticate registry otherRequest).seen Failure.seen (fun _ => ()) := by
  obtain ⟨text, otherText, segments, otherSegments, hfound, hotherFound, hspells, hotherSpells,
    hheader, hsignature, hotherSignature⟩ := h.tokens
  unfold authenticate
  have hextracts : (guard.extractor.extract request).seen Failure.seen (fun _ => ()) =
      (other.extractor.extract otherRequest).seen Failure.seen (fun _ => ()) := by
    simp only [Traced.seen, hfound, hotherFound, Extractor.events_of_found hfound,
      Extractor.events_of_found hotherFound]
    rfl
  apply Traced.seen_bind_congr hextracts
  intro token otherToken htoken hotherToken _
  obtain rfl : Value.text text = token := Except.ok.inj (hfound.symm.trans htoken)
  obtain rfl : Value.text otherText = otherToken :=
    Except.ok.inj (hotherFound.symm.trans hotherToken)
  apply Traced.seen_bind_congr
    (hspells.seen_decode hotherSpells hheader hsignature hotherSignature)
  intro raw otherRaw hraw hotherRaw hsame
  have hreceives : guard.Receives registry request raw := ⟨_, hfound, outcome_of_mapFailure hraw⟩
  have hotherReceives : other.Receives registry otherRequest otherRaw :=
    ⟨_, hotherFound, outcome_of_mapFailure hotherRaw⟩
  have hsettles := h.seen_verdicts hwords hreceives hotherReceives hsame
  have hempty : guard.verifiers.isEmpty = other.verifiers.isEmpty := by
    rw [Bool.eq_iff_iff, List.isEmpty_iff_length_eq_zero, List.isEmpty_iff_length_eq_zero,
      h.verifiers.length_eq]
  rw [hempty]
  -- The remark about missing verifiers is the same in both.
  cases other.verifiers.isEmpty with
  | false =>
      simp only [Bool.false_eq_true, if_false]
      exact hsettles
  | true =>
      simp only [if_true]
      have hremark : (Traced.remark .noVerifiers).seen Failure.seen id =
          (Traced.remark .noVerifiers).seen Failure.seen id := rfl
      apply Traced.seen_bind_congr hremark
      intro _ _ _ _ _
      exact hsettles

/-! ## Answers -/

/-- What the log says of a request that fails, by what is seen of the failure. -/
def complaint (path : String) : ErrorKind × Option (Text × Nat × Value) → Remark
  | (_, some (message, _, _)) => .requestRefused path message
  | (kind, none) => .authenticationFailed path kind

/-- The page for a request that fails, by what is seen of the failure. -/
def page : ErrorKind × Option (Text × Nat × Value) → Nat × Value
  | (_, some (_, status, description)) => (status, description)
  | (_, none) => (Refusal.unauthorized, .text unforeseenDescription)

theorem response_eq_page (failure : Failure) : response failure = page failure.seen := by
  cases failure <;> rfl

theorem events_deny (status : Nat) (description : Value) :
    (deny status description).events = [] := by
  rw [deny]
  split_ifs <;> rfl

theorem events_protect_of_ok {data : TokenData}
    (h : (guard.authenticate registry request).outcome = .ok data) :
    (guard.protect registry request).events = (guard.authenticate registry request).events := by
  have hattempt : (guard.authenticate registry request).attempt.outcome = .ok (.ok data) :=
    congrArg Except.ok h
  rw [protect, Traced.bind_of_ok hattempt]
  exact List.append_nil _

theorem events_protect_of_error {failure : Failure}
    (h : (guard.authenticate registry request).outcome = .error failure) :
    (guard.protect registry request).events =
      (guard.authenticate registry request).events ++
        [.remarked (complaint request.path failure.seen)] := by
  have hattempt : (guard.authenticate registry request).attempt.outcome = .ok (.error failure) :=
    congrArg Except.ok h
  have hcomplains (remark : Remark) (status : Nat) (description : Value) :
      (Traced.remark remark >>= fun _ => deny status description).events = [.remarked remark] := by
    show [Event.remarked remark] ++ (deny status description).events = _
    rw [events_deny]
    rfl
  rw [protect, Traced.bind_of_ok hattempt]
  show (guard.authenticate registry request).events ++ _ = _
  cases failure <;> exact congrArg _ (hcomplains _ _ _)

end Guard

/-- The lines of the log. -/
def Traced.log {α : Type} (computation : Traced α) : List Text :=
  (Traced.remarks computation.events).map Remark.line

namespace Guard

variable {registry : Registry} {guard other : Guard} {request otherRequest : Http.Request}
  {β : Type}

theorem log_serve_of_ok {data : TokenData} (view : TokenData → Traced β)
    (current : Option TokenData)
    (h : (guard.authenticate registry request).outcome = .ok data) :
    (guard.serve registry request view current).answer.log =
        (guard.authenticate registry request).log ++ (view data).log ∧
      (guard.serve registry request view current).answer.outcome =
        (view data).outcome.map .viewed := by
  rw [serve_of_granted (outcome_protect_of_ok h), events_protect_of_ok h]
  constructor
  · simp only [Traced.log, Traced.remarks_append, List.map_append]
  · rfl

/-- A request that fails is logged and answered by what is seen of its failure. -/
theorem log_serve_of_error {failure : Failure} (view : TokenData → Traced β)
    (current : Option TokenData)
    (h : (guard.authenticate registry request).outcome = .error failure) :
    (guard.serve registry request view current).answer.log =
        (guard.authenticate registry request).log ++
          [(complaint request.path failure.seen).line] ∧
      (guard.serve registry request view current).answer.outcome =
        if errorStatuses.contains (page failure.seen).1 then
          .ok (.page (page failure.seen).1 (page failure.seen).2)
        else .error .unknownStatus := by
  rw [serve_of_denied (outcome_protect_of_error h), events_protect_of_error h, response_eq_page]
  constructor
  · simp only [Traced.log, Traced.remarks_append, List.map_append]
    rfl
  · rfl

/-- Nothing about claims, signatures or keys is logged, or said in a refusal.  Requests to the same
path, with tokens that share their header, to guards whose verifiers share their kinds and key ids,
are both granted or both refused, as long as the verifiers that are consulted reply alike, the
claims are both wanted or fail in the same kind of way, and an application that refuses requests
in its own words uses the same words for both.  The guards log the same lines, and both refusals
have the same status and description. -/
theorem serve_discreet (h : Counterparts registry guard other request otherRequest)
    (hwords : WordedAlike registry guard other request otherRequest) :
    ∃ lines : List Text,
      (∃ data otherData,
        (∀ (view : TokenData → Traced β) (current : Option TokenData),
          (guard.serve registry request view current).answer.log = lines ++ (view data).log ∧
            (guard.serve registry request view current).answer.outcome =
              (view data).outcome.map .viewed) ∧
        ∀ (view : TokenData → Traced β) (current : Option TokenData),
          (other.serve registry otherRequest view current).answer.log =
              lines ++ (view otherData).log ∧
            (other.serve registry otherRequest view current).answer.outcome =
              (view otherData).outcome.map .viewed) ∨
      ∃ status description,
        (∀ (view : TokenData → Traced β) (current : Option TokenData),
          (guard.serve registry request view current).answer.log = lines ∧
            (guard.serve registry request view current).answer.outcome =
              if errorStatuses.contains status then .ok (.page status description)
              else .error .unknownStatus) ∧
        ∀ (view : TokenData → Traced β) (current : Option TokenData),
          (other.serve registry otherRequest view current).answer.log = lines ∧
            (other.serve registry otherRequest view current).answer.outcome =
              if errorStatuses.contains status then .ok (.page status description)
              else .error .unknownStatus := by
  have hseen := h.seen_authenticate hwords
  have hlog : (guard.authenticate registry request).log =
      (other.authenticate registry otherRequest).log :=
    congrArg (List.map Remark.line) (congrArg Prod.snd hseen)
  obtain ⟨failure, otherFailure, hfails, hotherFails, hsame⟩ |
    ⟨data, otherData, hgrants, hotherGrants, -⟩ := Traced.cases_of_seen_eq hseen
  · refine ⟨_, .inr ⟨_, _, fun view current => log_serve_of_error view current hfails, ?_⟩⟩
    intro view current
    rw [hlog, h.path_eq, hsame]
    exact log_serve_of_error view current hotherFails
  · refine ⟨_, .inl ⟨data, otherData, fun view current => log_serve_of_ok view current hgrants, ?_⟩⟩
    intro view current
    rw [hlog]
    exact log_serve_of_ok view current hotherGrants

/-! ## Two guards with a secret each -/

private def secretGuard (secret : Bytes) : Guard where
  verifiers := [.withKeyId "a" (.key (.secret .sha256 secret)) false]
  claimsType := .schema .any
  extractor := .bearer "Authorization" "Bearer"

private def bearing (token : String) : Http.Request :=
  ⟨[("Authorization", "bearer " ++ token)], "/me"⟩

private def echoClaims (data : TokenData) : Traced Value := pure data.claims

/-- A token for the key that ends where its signature should stand. -/
private def unsignedText : String := "eyJhbGciOiJIUzI1NiIsImtpZCI6ImEifQ.MQ."

/-- A token for the key, with other claims and a single byte as its signature. -/
private def shortText : String := "eyJhbGciOiJIUzI1NiIsImtpZCI6ImEifQ.Mg.AA"

private theorem unsignedText_found : ((secretGuard [107]).extractor.extract
    (bearing unsignedText)).outcome = .ok (.text unsignedText) := rfl

private theorem shortText_found : ((secretGuard [108]).extractor.extract
    (bearing shortText)).outcome = .ok (.text shortText) := rfl

private theorem unsignedText_spelled : RawToken.Spells unsignedText
    ⟨"eyJhbGciOiJIUzI1NiIsImtpZCI6ImEifQ.MQ", "eyJhbGciOiJIUzI1NiIsImtpZCI6ImEifQ", "MQ", ""⟩ :=
  ⟨rfl, rfl, by decide, by decide, by decide⟩

private theorem shortText_spelled : RawToken.Spells shortText
    ⟨"eyJhbGciOiJIUzI1NiIsImtpZCI6ImEifQ.Mg", "eyJhbGciOiJIUzI1NiIsImtpZCI6ImEifQ", "Mg", "AA"⟩ :=
  ⟨rfl, rfl, by decide, by decide, by decide⟩

private theorem encode_zero : Base64.Url.encode [0] = "AA" := rfl

private theorem decode_namingHeader :
    Header.decode ⟨true, ⟨""⟩⟩ "eyJhbGciOiJIUzI1NiIsImtpZCI6ImEifQ" =
      .ok ⟨some ⟨.hmac, .sha256⟩, some "a", none, none⟩ := by
  have hdecodes : (Header.decode ⟨true, ⟨""⟩⟩
      "eyJhbGciOiJIUzI1NiIsImtpZCI6ImEifQ").toOption.any
        (· == ⟨some ⟨.hmac, .sha256⟩, some "a", none, none⟩) = true := by
    decide +kernel
  obtain ⟨header, hdecode, hholds⟩ := exists_ok_of_any hdecodes
  rw [hdecode, beq_iff_eq.mp hholds]

private theorem unsignedText_received {raw : RawToken}
    (h : (secretGuard [107]).Receives ⟨true, ⟨""⟩⟩ (bearing unsignedText) raw) :
    raw.header = ⟨some ⟨.hmac, .sha256⟩, some "a", none, none⟩ ∧ raw.signature = [] := by
  obtain ⟨hheader, hsignature⟩ := h.of_spells unsignedText_found unsignedText_spelled
  rw [decode_namingHeader] at hheader
  have hempty : Base64.Url.encode raw.signature = "" := Text.ofString_injective hsignature
  exact ⟨(Except.ok.inj hheader).symm, Base64.Url.encode_injective hempty⟩

private theorem shortText_received {raw : RawToken}
    (h : (secretGuard [108]).Receives ⟨true, ⟨""⟩⟩ (bearing shortText) raw) :
    raw.header = ⟨some ⟨.hmac, .sha256⟩, some "a", none, none⟩ ∧ raw.signature = [0] := by
  obtain ⟨hheader, hsignature⟩ := h.of_spells shortText_found shortText_spelled
  rw [decode_namingHeader] at hheader
  have hzero : Base64.Url.encode raw.signature = "AA" := Text.ofString_injective hsignature
  exact ⟨(Except.ok.inj hheader).symm,
    Base64.Url.encode_injective (hzero.trans encode_zero.symm)⟩

private theorem unsignedText_rejected {raw : RawToken}
    (h : (secretGuard [107]).Receives ⟨true, ⟨""⟩⟩ (bearing unsignedText) raw) :
    (raw.verifyAny (secretGuard [107]).verifiers).outcome = .ok false := by
  obtain ⟨token, htoken, hdecode⟩ := id h
  obtain rfl : Value.text unsignedText = token :=
    Except.ok.inj (unsignedText_found.symm.trans htoken)
  obtain ⟨message, hmessage⟩ :=
    RawToken.exists_message?_of_read (RawToken.outcome_decode_eq_ok_iff.mp hdecode)
  have hkeys : ∀ verifier ∈ (secretGuard [107]).verifiers, RawToken.HoldsKey verifier := by
    intro verifier hverifier
    rw [List.mem_singleton.mp hverifier]
    exact ⟨_, rfl⟩
  rw [RawToken.verifyAny_of_no_signature (unsignedText_received h).2 hkeys,
    RawToken.encoded_of_message? hmessage]
  rfl

/-- A secret rejects what is not as long as its digests. -/
private theorem rejects_of_length {secret signature : Bytes} (message : Bytes)
    (h : signature.length ≠ 32) :
    (Backend.secret .sha256 secret).verify message signature = false := by
  by_contra hverifies
  exact h (Backend.fullWidth_of_verify (Bool.eq_true_of_not_eq_false hverifies))

private theorem replies_of_secrets {raw otherRaw : RawToken}
    (h : (secretGuard [107]).Receives ⟨true, ⟨""⟩⟩ (bearing unsignedText) raw)
    (hother : (secretGuard [108]).Receives ⟨true, ⟨""⟩⟩ (bearing shortText) otherRaw) :
    RawToken.RepliesAlike raw otherRaw (.withKeyId "a" (.key (.secret .sha256 [107])) false)
      (.withKeyId "a" (.key (.secret .sha256 [108])) false) := by
  obtain ⟨hheader, hsignature⟩ := unsignedText_received h
  obtain ⟨hotherHeader, hotherSignature⟩ := shortText_received hother
  constructor
  · rw [hheader, hotherHeader]
    rfl
  · intro _ message otherMessage _ _
    rw [Keyholder.checkSignature_outcome rfl, Keyholder.checkSignature_outcome rfl,
      rejects_of_length message (by simp [hsignature]),
      rejects_of_length otherMessage (by simp [hotherSignature])]

private theorem counterparts_of_secrets :
    Counterparts ⟨true, ⟨""⟩⟩ (secretGuard [107]) (secretGuard [108]) (bearing unsignedText)
      (bearing shortText) where
  path_eq := rfl
  tokens := ⟨_, _, _, _, unsignedText_found, shortText_found, unsignedText_spelled,
    shortText_spelled, rfl, ⟨[], rfl⟩, ⟨[0], congrArg Text.ofString encode_zero⟩⟩
  verifiers := .cons (.withKeyId _ _ _ _ _ (.key _ _ rfl)) .nil
  replies := by
    intro raw otherRaw hreceives hotherReceives place verifier other hverifier hother _ _
    cases place with
    | zero =>
        obtain rfl := Option.some.inj hverifier
        obtain rfl := Option.some.inj hother
        exact replies_of_secrets hreceives hotherReceives
    | succ place => cases hverifier
  claims := by
    intro raw otherRaw hreceives _ haccepts
    rw [unsignedText_rejected hreceives] at haccepts
    cases haccepts

/-- No application words a refusal here. -/
private theorem wordedAlike_of_secrets :
    WordedAlike ⟨true, ⟨""⟩⟩ (secretGuard [107]) (secretGuard [108]) (bearing unsignedText)
      (bearing shortText) where
  verifiers := by
    intro raw otherRaw refusal otherRefusal hreceives _ hfails
    rw [unsignedText_rejected hreceives] at hfails
    cases hfails
  claims := by
    intro raw otherRaw refusal otherRefusal hreceives _ haccepts
    rw [unsignedText_rejected hreceives] at haccepts
    cases haccepts

/-- Both requests are refused alike, though their tokens hold other claims and other signatures, and
the guards other secrets. -/
theorem serve_discreet_of_secrets :
    Counterparts ⟨true, ⟨""⟩⟩ (secretGuard [107]) (secretGuard [108]) (bearing unsignedText)
        (bearing shortText) ∧
      WordedAlike ⟨true, ⟨""⟩⟩ (secretGuard [107]) (secretGuard [108]) (bearing unsignedText)
        (bearing shortText) ∧
      ((secretGuard [107]).serve ⟨true, ⟨""⟩⟩ (bearing unsignedText) echoClaims none).answer.log =
        ((secretGuard [108]).serve ⟨true, ⟨""⟩⟩ (bearing shortText) echoClaims none).answer.log ∧
      ((secretGuard [108]).serve ⟨true, ⟨""⟩⟩ (bearing shortText) echoClaims none).answer.outcome =
        .ok (.page 401 (.text "Invalid signature")) := by
  obtain ⟨raw, hread⟩ := unsignedText_spelled.exists_read_iff.mpr
    ⟨⟨_, decode_namingHeader⟩, ⟨[], rfl⟩⟩
  have hdecode := RawToken.outcome_decode_eq_ok_iff.mpr hread
  have haborts : (secretGuard [107]).Aborts ⟨true, ⟨""⟩⟩ (bearing unsignedText) 401
      (.text "Invalid signature") :=
    .unverified _ raw unsignedText_found hdecode
      (unsignedText_rejected ⟨_, unsignedText_found, hdecode⟩)
  have hpage : ((secretGuard [107]).serve ⟨true, ⟨""⟩⟩ (bearing unsignedText) echoClaims
      none).answer.outcome = .ok (.page 401 (.text "Invalid signature")) := by
    rw [haborts.serve]
    rfl
  refine ⟨counterparts_of_secrets, wordedAlike_of_secrets, ?_⟩
  obtain ⟨lines, ⟨data, otherData, hfirst, -⟩ | ⟨status, description, hfirst, hsecond⟩⟩ :=
    serve_discreet counterparts_of_secrets wordedAlike_of_secrets
  · -- The first request is refused, so it is not granted.
    rw [(hfirst echoClaims none).2] at hpage
    cases hpage
  · obtain ⟨hlog, houtcome⟩ := hfirst echoClaims none
    obtain ⟨hotherLog, hotherOutcome⟩ := hsecond echoClaims none
    exact ⟨hlog.trans hotherLog.symm, (hotherOutcome.trans houtcome.symm).trans hpage⟩

/-! ## Two guards with a refusal each -/

/-- A guard with a verifier that refuses every request, in some words and with some status. -/
private def refusingWith (words : String) (status : Nat) : Guard where
  verifiers := [.scripted
    ⟨0, .fails (.refused ⟨.authError, words, .text words, status, none⟩), .answer true⟩]
  claimsType := .schema .any
  extractor := .bearer "Authorization" "Bearer"

private theorem refusingWith_found (words : String) (status : Nat) :
    ((refusingWith words status).extractor.extract (bearing unsignedText)).outcome =
      .ok (.text unsignedText) := rfl

private theorem refusingWith_refuses {words : String} {status : Nat} {raw : RawToken}
    (h : (refusingWith words status).Receives ⟨true, ⟨""⟩⟩ (bearing unsignedText) raw) :
    (raw.verifyAny (refusingWith words status).verifiers).outcome =
      .error (.refused ⟨.authError, words, .text words, status, none⟩) := by
  obtain ⟨token, htoken, hdecode⟩ := h
  obtain rfl : Value.text unsignedText = token :=
    Except.ok.inj ((refusingWith_found words status).symm.trans htoken)
  obtain ⟨message, hmessage⟩ :=
    RawToken.exists_message?_of_read (RawToken.outcome_decode_eq_ok_iff.mp hdecode)
  rw [refusingWith, RawToken.verifyAny_cons hmessage, RawToken.outcome_verify]
  rfl

private theorem counterparts_of_refusals (words otherWords : String) (status otherStatus : Nat) :
    Counterparts ⟨true, ⟨""⟩⟩ (refusingWith words status) (refusingWith otherWords otherStatus)
      (bearing unsignedText) (bearing unsignedText) where
  path_eq := rfl
  tokens := ⟨_, _, _, _, refusingWith_found words status,
    refusingWith_found otherWords otherStatus, unsignedText_spelled, unsignedText_spelled, rfl,
    ⟨[], rfl⟩, ⟨[], rfl⟩⟩
  verifiers := .cons (.scripted _ _) .nil
  replies := by
    intro raw otherRaw _ _ place verifier other hverifier hother _ _
    cases place with
    | zero =>
        obtain rfl := Option.some.inj hverifier
        obtain rfl := Option.some.inj hother
        exact ⟨rfl, nofun⟩
    | succ place => cases hverifier
  claims := by
    intro raw otherRaw hreceives _ haccepts
    rw [refusingWith_refuses hreceives] at haccepts
    cases haccepts

private theorem serve_refusingWith (words : String) (status : Nat)
    (hstatus : errorStatuses.contains status = true) :
    ∃ lines : List Text,
      ((refusingWith words status).serve ⟨true, ⟨""⟩⟩ (bearing unsignedText) echoClaims
        none).answer.log = lines ++ [(Remark.requestRefused "/me" words).line] ∧
      ((refusingWith words status).serve ⟨true, ⟨""⟩⟩ (bearing unsignedText) echoClaims
        none).answer.outcome = .ok (.page status (.text words)) := by
  obtain ⟨raw, hread⟩ := unsignedText_spelled.exists_read_iff.mpr
    ⟨⟨_, decode_namingHeader⟩, ⟨[], rfl⟩⟩
  have hdecode := RawToken.outcome_decode_eq_ok_iff.mpr hread
  have hrefuses := refusingWith_refuses ⟨_, refusingWith_found words status, hdecode⟩
  have hfails : ((refusingWith words status).authenticate ⟨true, ⟨""⟩⟩
      (bearing unsignedText)).outcome =
        .error (.refused ⟨.authError, words, .text words, status, none⟩) :=
    authenticate_of_verify_error (refusingWith_found words status) hdecode hrefuses
  obtain ⟨hlog, houtcome⟩ := log_serve_of_error echoClaims none hfails
  refine ⟨_, hlog, ?_⟩
  rw [houtcome]
  exact if_pos hstatus

/-- Two verifiers that refuse the same request with errors of the same kind, but in other words,
leave other lines in the log and end the request with other pages. -/
theorem not_discreet_in_own_words :
    Counterparts ⟨true, ⟨""⟩⟩ (refusingWith "revoked" 403) (refusingWith "expired" 401)
        (bearing unsignedText) (bearing unsignedText) ∧
      ((refusingWith "revoked" 403).serve ⟨true, ⟨""⟩⟩ (bearing unsignedText) echoClaims
          none).answer.log ≠
        ((refusingWith "expired" 401).serve ⟨true, ⟨""⟩⟩ (bearing unsignedText) echoClaims
          none).answer.log ∧
      ((refusingWith "revoked" 403).serve ⟨true, ⟨""⟩⟩ (bearing unsignedText) echoClaims
          none).answer.outcome = .ok (.page 403 (.text "revoked")) ∧
      ((refusingWith "expired" 401).serve ⟨true, ⟨""⟩⟩ (bearing unsignedText) echoClaims
          none).answer.outcome = .ok (.page 401 (.text "expired")) := by
  obtain ⟨lines, hlog, houtcome⟩ := serve_refusingWith "revoked" 403 (by decide)
  obtain ⟨otherLines, hotherLog, hotherOutcome⟩ := serve_refusingWith "expired" 401 (by decide)
  refine ⟨counterparts_of_refusals _ _ _ _, ?_, houtcome, hotherOutcome⟩
  have hlines : (Remark.requestRefused "/me" "revoked").line ≠
      (Remark.requestRefused "/me" "expired").line := by
    decide +kernel
  rw [hlog, hotherLog]
  intro heq
  have hlast := List.append_inj_right' heq
    (List.length_singleton.trans List.length_singleton.symm)
  exact hlines (List.singleton_inj.mp hlast)

end Guard

end SignedToken
