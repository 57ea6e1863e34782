import SignedToken.Proofs.Keyholder.Acceptance
import SignedToken.Proofs.Token.Format
import SignedToken.View

/-!
# The stages of a guard

A request passes the guard if it passes every stage: a text is found, the text
can be read, some verifier accepts the token, and its claims are wanted.  In all
other cases the earliest stage that fails decides how the request is ended, the
view has no part in it, and the current token stays what it was.  A stage where an
application takes part, be it by an extractor, by verifiers or by its own idea of
claims, may also refuse the request in words of its own, or break.
-/

namespace SignedToken.Guard

/-- What the stages make of a request that passes all of them. -/
structure Passes (registry : Registry) (guard : Guard) (request : Http.Request) (raw : RawToken)
    (claims : Value) : Prop where
  read : ∃ text, (guard.extractor.extract request).outcome = .ok (.text text) ∧
    (RawToken.decode registry (.text text)).outcome = .ok raw
  verified : (raw.verifyAny guard.verifiers).outcome = .ok true
  wanted : raw.claims guard.claimsType = .ok claims

/-- The status and the description of the page that a request ends with, by the earliest stage that
fails. -/
inductive Aborts (registry : Registry) (guard : Guard) (request : Http.Request) :
    (status : Nat) → (description : Value) → Prop where
  | extractorRefuses (refusal : Refusal)
      (found : (guard.extractor.extract request).outcome = .error (.refused refusal)) :
      Aborts registry guard request refusal.status refusal.description
  | extractorBreaks (failure : Failure)
      (found : (guard.extractor.extract request).outcome = .error failure)
      (unforeseen : ∀ refusal, failure ≠ .refused refusal) :
      Aborts registry guard request 401 (.text "Authentication failed")
  | malformed (token : Value) (failure : Failure)
      (found : (guard.extractor.extract request).outcome = .ok token)
      (read : (RawToken.decode registry token).outcome = .error failure) :
      Aborts registry guard request 401 (.text "Malformed token")
  | verificationRefuses (token : Value) (raw : RawToken) (refusal : Refusal)
      (found : (guard.extractor.extract request).outcome = .ok token)
      (read : (RawToken.decode registry token).outcome = .ok raw)
      (verified : (raw.verifyAny guard.verifiers).outcome = .error (.refused refusal)) :
      Aborts registry guard request refusal.status refusal.description
  | verificationBreaks (token : Value) (raw : RawToken) (failure : Failure)
      (found : (guard.extractor.extract request).outcome = .ok token)
      (read : (RawToken.decode registry token).outcome = .ok raw)
      (verified : (raw.verifyAny guard.verifiers).outcome = .error failure)
      (unforeseen : ∀ refusal, failure ≠ .refused refusal) :
      Aborts registry guard request 401 (.text "Authentication failed")
  | unverified (token : Value) (raw : RawToken)
      (found : (guard.extractor.extract request).outcome = .ok token)
      (read : (RawToken.decode registry token).outcome = .ok raw)
      (verified : (raw.verifyAny guard.verifiers).outcome = .ok false) :
      Aborts registry guard request 401 (.text "Invalid signature")
  | unwanted (token : Value) (raw : RawToken) (failure : DecodeFailure)
      (found : (guard.extractor.extract request).outcome = .ok token)
      (read : (RawToken.decode registry token).outcome = .ok raw)
      (verified : (raw.verifyAny guard.verifiers).outcome = .ok true)
      (claims : raw.claims guard.claimsType = .error (.decode failure)) :
      Aborts registry guard request 401 (.text "Invalid claims")
  | claimsRefuse (token : Value) (raw : RawToken) (refusal : Refusal)
      (found : (guard.extractor.extract request).outcome = .ok token)
      (read : (RawToken.decode registry token).outcome = .ok raw)
      (verified : (raw.verifyAny guard.verifiers).outcome = .ok true)
      (claims : raw.claims guard.claimsType = .error (.refused refusal)) :
      Aborts registry guard request refusal.status refusal.description
  | claimsBreak (token : Value) (raw : RawToken) (failure : Failure)
      (found : (guard.extractor.extract request).outcome = .ok token)
      (read : (RawToken.decode registry token).outcome = .ok raw)
      (verified : (raw.verifyAny guard.verifiers).outcome = .ok true)
      (claims : raw.claims guard.claimsType = .error failure)
      (readable : ∀ reason, failure ≠ .decode reason)
      (unforeseen : ∀ refusal, failure ≠ .refused refusal) :
      Aborts registry guard request 401 (.text "Authentication failed")

/-! ## Authentication -/

variable {registry : Registry} {guard : Guard} {request : Http.Request}

/-- The last stage, on a token that was verified or not. -/
private def conclude (guard : Guard) (raw : RawToken) (accepted : Bool) :
    Except Failure TokenData :=
  if accepted then
    (raw.claims guard.claimsType).mapError (asRefusal unwantedClaims) >>= fun claims =>
      .ok ⟨raw.header, claims⟩
  else .error (.refused unverified)

private theorem conclude_of_ok {raw : RawToken} {claims : Value}
    (h : raw.claims guard.claimsType = .ok claims) :
    conclude guard raw true = .ok ⟨raw.header, claims⟩ := by
  rw [conclude, if_pos rfl, h]
  rfl

private theorem conclude_of_error {raw : RawToken} {failure : Failure}
    (h : raw.claims guard.claimsType = .error failure) :
    conclude guard raw true = .error (asRefusal unwantedClaims failure) := by
  rw [conclude, if_pos rfl, h]
  rfl

private theorem outcome_authenticate (registry : Registry) (guard : Guard)
    (request : Http.Request) :
    (guard.authenticate registry request).outcome =
      (guard.extractor.extract request).outcome >>= fun token =>
        (RawToken.decode registry token).outcome.mapError (asRefusal malformed) >>= fun raw =>
          (raw.verifyAny guard.verifiers).outcome >>= conclude guard raw := by
  rw [authenticate, Traced.outcome_bind]
  congr 1
  funext token
  rw [Traced.outcome_bind]
  congr 1
  funext raw
  have hverify :
      (raw.verifyAny guard.verifiers >>= fun accepted =>
        if accepted = true then
          (Traced.ofExcept (raw.claims guard.claimsType)).mapFailure (asRefusal unwantedClaims) >>=
            fun claims => (pure ⟨raw.header, claims⟩ : Traced TokenData)
        else Traced.fail (.refused unverified)).outcome =
        (raw.verifyAny guard.verifiers).outcome >>= conclude guard raw := by
    rw [Traced.outcome_bind]
    congr 1
    funext accepted
    cases accepted with
    | false => rfl
    | true => exact Traced.outcome_bind _ _
  -- The remark about missing verifiers leaves the outcome alone.
  cases guard.verifiers.isEmpty with
  | false => exact hverify
  | true => exact hverify

private theorem authenticate_of_extract_error {failure : Failure}
    (hfound : (guard.extractor.extract request).outcome = .error failure) :
    (guard.authenticate registry request).outcome = .error failure := by
  rw [outcome_authenticate, hfound]
  rfl

private theorem authenticate_of_found {token : Value}
    (hfound : (guard.extractor.extract request).outcome = .ok token) :
    (guard.authenticate registry request).outcome =
      (RawToken.decode registry token).outcome.mapError (asRefusal malformed) >>= fun raw =>
        (raw.verifyAny guard.verifiers).outcome >>= conclude guard raw := by
  rw [outcome_authenticate, hfound]
  rfl

private theorem authenticate_of_read {token : Value} {raw : RawToken}
    (hfound : (guard.extractor.extract request).outcome = .ok token)
    (hread : (RawToken.decode registry token).outcome = .ok raw) :
    (guard.authenticate registry request).outcome =
      (raw.verifyAny guard.verifiers).outcome >>= conclude guard raw := by
  rw [authenticate_of_found hfound, hread]
  rfl

/-- A token that cannot be read ends authentication, whatever the verifiers are. -/
theorem authenticate_of_malformed {token : Value} {reason : DecodeFailure}
    (hfound : (guard.extractor.extract request).outcome = .ok token)
    (hread : (RawToken.decode registry token).outcome = .error (.decode reason)) :
    (guard.authenticate registry request).outcome = .error (.refused (malformed reason)) := by
  rw [authenticate_of_found hfound, hread]
  rfl

/-- A failure of verification ends authentication as it is. -/
theorem authenticate_of_verify_error {token : Value} {raw : RawToken} {failure : Failure}
    (hfound : (guard.extractor.extract request).outcome = .ok token)
    (hread : (RawToken.decode registry token).outcome = .ok raw)
    (hverified : (raw.verifyAny guard.verifiers).outcome = .error failure) :
    (guard.authenticate registry request).outcome = .error failure := by
  rw [authenticate_of_read hfound hread, hverified]
  rfl

theorem Passes.authenticate {raw : RawToken} {claims : Value}
    (h : guard.Passes registry request raw claims) :
    (guard.authenticate registry request).outcome = .ok ⟨raw.header, claims⟩ := by
  obtain ⟨text, hfound, hread⟩ := h.read
  rw [authenticate_of_read hfound hread, h.verified]
  exact conclude_of_ok h.wanted

theorem asRefusal_of_readable {refusal : DecodeFailure → Refusal} {failure : Failure}
    (h : ∀ reason, failure ≠ .decode reason) : asRefusal refusal failure = failure := by
  cases failure with
  | decode reason => exact absurd rfl (h reason)
  | _ => rfl

/-- The page that a failure of the stages ends a request with. -/
def response : Failure → Nat × Value
  | .refused refusal => (refusal.status, refusal.description)
  | _ => (Refusal.unauthorized, .text unforeseenDescription)

private theorem response_of_unforeseen {failure : Failure}
    (h : ∀ refusal, failure ≠ .refused refusal) :
    response failure = (401, .text "Authentication failed") := by
  cases failure with
  | refused refusal => exact absurd rfl (h refusal)
  | _ => rfl

/-- Authentication fails at the stage that decides how the request is ended. -/
theorem Aborts.authenticate {status : Nat} {description : Value}
    (h : guard.Aborts registry request status description) :
    ∃ failure, (guard.authenticate registry request).outcome = .error failure ∧
      response failure = (status, description) := by
  cases h with
  | extractorRefuses refusal found =>
      exact ⟨_, authenticate_of_extract_error found, rfl⟩
  | extractorBreaks failure found unforeseen =>
      exact ⟨_, authenticate_of_extract_error found, response_of_unforeseen unforeseen⟩
  | malformed token failure found read =>
      obtain ⟨reason, -, rfl⟩ := RawToken.outcome_decode_eq_error_iff.mp read
      refine ⟨.refused (Guard.malformed reason), ?_, rfl⟩
      rw [authenticate_of_found found, read]
      rfl
  | verificationRefuses token raw refusal found read verified =>
      exact ⟨_, authenticate_of_verify_error found read verified, rfl⟩
  | verificationBreaks token raw failure found read verified unforeseen =>
      exact ⟨_, authenticate_of_verify_error found read verified,
        response_of_unforeseen unforeseen⟩
  | unverified token raw found read verified =>
      refine ⟨.refused Guard.unverified, ?_, rfl⟩
      rw [authenticate_of_read found read, verified]
      rfl
  | unwanted token raw failure found read verified claims =>
      refine ⟨.refused (unwantedClaims failure), ?_, rfl⟩
      rw [authenticate_of_read found read, verified]
      exact conclude_of_error claims
  | claimsRefuse token raw refusal found read verified claims =>
      refine ⟨.refused refusal, ?_, rfl⟩
      rw [authenticate_of_read found read, verified]
      exact conclude_of_error claims
  | claimsBreak token raw failure found read verified claims readable unforeseen =>
      refine ⟨failure, ?_, response_of_unforeseen unforeseen⟩
      rw [authenticate_of_read found read, verified, ← asRefusal_of_readable readable]
      exact conclude_of_error claims

/-- A failure of the claims decides how the request is ended, whatever it is. -/
private theorem exists_aborts_of_claims {token : Value} {raw : RawToken} {failure : Failure}
    (hfound : (guard.extractor.extract request).outcome = .ok token)
    (hread : (RawToken.decode registry token).outcome = .ok raw)
    (hverified : (raw.verifyAny guard.verifiers).outcome = .ok true)
    (hclaims : raw.claims guard.claimsType = .error failure) :
    ∃ status description, guard.Aborts registry request status description := by
  by_cases hreadable : ∃ reason, failure = .decode reason
  · obtain ⟨reason, rfl⟩ := hreadable
    exact ⟨_, _, .unwanted token raw reason hfound hread hverified hclaims⟩
  · by_cases hrefused : ∃ refusal, failure = .refused refusal
    · obtain ⟨refusal, rfl⟩ := hrefused
      exact ⟨_, _, .claimsRefuse token raw refusal hfound hread hverified hclaims⟩
    · exact ⟨_, _, .claimsBreak token raw failure hfound hread hverified hclaims
        (not_exists.mp hreadable) (not_exists.mp hrefused)⟩

/-- One of the stages fails unless all are passed. -/
theorem exists_passes_or_aborts (registry : Registry) (guard : Guard) (request : Http.Request) :
    (∃ raw claims, guard.Passes registry request raw claims) ∨
      ∃ status description, guard.Aborts registry request status description := by
  cases hfound : (guard.extractor.extract request).outcome with
  | error failure =>
      by_cases hrefused : ∃ refusal, failure = .refused refusal
      · obtain ⟨refusal, rfl⟩ := hrefused
        exact .inr ⟨_, _, .extractorRefuses refusal hfound⟩
      · exact .inr ⟨_, _, .extractorBreaks failure hfound (not_exists.mp hrefused)⟩
  | ok token =>
      cases hread : (RawToken.decode registry token).outcome with
      | error failure => exact .inr ⟨_, _, .malformed token failure hfound hread⟩
      | ok raw =>
          cases hverified : (raw.verifyAny guard.verifiers).outcome with
          | error failure =>
              by_cases hrefused : ∃ refusal, failure = .refused refusal
              · obtain ⟨refusal, rfl⟩ := hrefused
                exact .inr ⟨_, _, .verificationRefuses token raw refusal hfound hread hverified⟩
              · exact .inr ⟨_, _, .verificationBreaks token raw failure hfound hread hverified
                  (not_exists.mp hrefused)⟩
          | ok accepted =>
              cases accepted with
              | false => exact .inr ⟨_, _, .unverified token raw hfound hread hverified⟩
              | true =>
                  cases hclaims : raw.claims guard.claimsType with
                  | error failure =>
                      exact .inr (exists_aborts_of_claims hfound hread hverified hclaims)
                  | ok claims =>
                      obtain ⟨text, _, rfl, -⟩ := RawToken.exists_spells_of_read
                        (RawToken.outcome_decode_eq_ok_iff.mp hread)
                      exact .inl ⟨raw, claims, ⟨text, hfound, hread⟩, hverified, hclaims⟩

/-! ## Serving -/

theorem outcome_protect_of_ok {data : TokenData}
    (h : (guard.authenticate registry request).outcome = .ok data) :
    (guard.protect registry request).outcome = .ok (.granted data) := by
  rw [protect, Traced.outcome_bind]
  show (Except.ok (guard.authenticate registry request).outcome >>= _) = _
  rw [h]
  rfl

theorem outcome_protect_of_error {failure : Failure}
    (h : (guard.authenticate registry request).outcome = .error failure) :
    (guard.protect registry request).outcome =
      (deny (response failure).1 (response failure).2).outcome := by
  rw [protect, Traced.outcome_bind]
  show (Except.ok (guard.authenticate registry request).outcome >>= _) = _
  rw [h]
  cases failure <;> rfl

theorem outcome_deny (status : Nat) (description : Value) :
    (deny status description).outcome =
      if errorStatuses.contains status then .ok (.denied status description)
      else .error .unknownStatus := by
  rw [deny]
  split_ifs <;> rfl

variable {β : Type} {view : TokenData → Traced β} {current : Option TokenData}

private theorem bind_pure_viewed (computation : Traced β) :
    (computation >>= fun result => pure (Answer.viewed result)) =
      ⟨computation.outcome.map .viewed, computation.events⟩ := by
  cases houtcome : computation.outcome with
  | error failure => exact Traced.bind_of_error houtcome
  | ok result =>
      rw [Traced.bind_of_ok houtcome]
      show Traced.mk _ (computation.events ++ []) = _
      rw [List.append_nil]
      rfl

/-- A request that is granted is answered by the view, which runs after everything that the guard
does. -/
theorem serve_of_granted {data : TokenData}
    (h : (guard.protect registry request).outcome = .ok (.granted data)) :
    guard.serve registry request view current =
      ⟨⟨(view data).outcome.map .viewed,
        (guard.protect registry request).events ++ (view data).events⟩, some data⟩ := by
  simp only [serve, Traced.bind_of_ok h, bind_pure_viewed, h]

/-- A request that is not granted is answered by the guard alone. -/
theorem serve_of_denied {status : Nat} {description : Value}
    (h : (guard.protect registry request).outcome = (deny status description).outcome) :
    guard.serve registry request view current =
      ⟨⟨if errorStatuses.contains status then .ok (.page status description)
        else .error .unknownStatus, (guard.protect registry request).events⟩, current⟩ := by
  rw [outcome_deny] at h
  by_cases hstatus : errorStatuses.contains status = true
  · rw [if_pos hstatus] at h ⊢
    simp only [serve, Traced.bind_of_ok h, h]
    show Served.mk (Traced.mk _ ((guard.protect registry request).events ++ [])) current = _
    rw [List.append_nil]
    rfl
  · rw [if_neg hstatus] at h ⊢
    simp only [serve, Traced.bind_of_error h, h]

theorem Aborts.serve {status : Nat} {description : Value}
    (h : guard.Aborts registry request status description) :
    guard.serve registry request view current =
      ⟨⟨if errorStatuses.contains status then .ok (.page status description)
        else .error .unknownStatus, (guard.protect registry request).events⟩, current⟩ := by
  obtain ⟨failure, hfails, hresponse⟩ := h.authenticate
  apply serve_of_denied
  rw [outcome_protect_of_error hfails, hresponse]

/-- A token whose text has no bytes is read, but nothing can be verified of it. -/
theorem aborts_of_no_message {token : Value} {raw : RawToken}
    (hfound : (guard.extractor.extract request).outcome = .ok token)
    (hread : (RawToken.decode registry token).outcome = .ok raw) (hmessage : raw.message? = none) :
    guard.Aborts registry request 401 (.text "Authentication failed") :=
  .verificationBreaks token raw .notEncodable hfound hread
    (congrArg Traced.outcome (RawToken.verifyAny_of_none hmessage guard.verifiers)) fun _ => nofun

/-- The view runs exactly on the requests that pass all stages, on the header and the claims that
were read, and what comes of it is what comes of the request.  A request that does not pass is ended
by its earliest stage that fails: with a page if there are pages of its status, and otherwise with
the complaint that there are none.  It leaves the current token alone.  Nothing is verified of a
token whose text has no bytes, and so it does not pass. -/
theorem serve_fails_closed (registry : Registry) (guard : Guard) (request : Http.Request)
    (view : TokenData → Traced β) (current : Option TokenData) :
    (∀ raw claims, guard.Passes registry request raw claims →
      guard.serve registry request view current =
        ⟨⟨(view ⟨raw.header, claims⟩).outcome.map .viewed,
          (guard.protect registry request).events ++ (view ⟨raw.header, claims⟩).events⟩,
          some ⟨raw.header, claims⟩⟩) ∧
    (∀ status description, guard.Aborts registry request status description →
      guard.serve registry request view current =
        ⟨⟨if errorStatuses.contains status then .ok (.page status description)
          else .error .unknownStatus, (guard.protect registry request).events⟩, current⟩) ∧
    ((∃ status description, guard.Aborts registry request status description) ↔
      ¬∃ raw claims, guard.Passes registry request raw claims) ∧
    (∀ status description other otherDescription,
      guard.Aborts registry request status description →
      guard.Aborts registry request other otherDescription →
      status = other ∧ description = otherDescription) ∧
    ∀ token raw, (guard.extractor.extract request).outcome = .ok token →
      (RawToken.decode registry token).outcome = .ok raw → raw.message? = none →
      guard.Aborts registry request 401 (.text "Authentication failed") := by
  refine ⟨?_, fun status description haborts => haborts.serve, ?_, ?_,
    fun token raw => aborts_of_no_message⟩
  · intro raw claims hpasses
    exact serve_of_granted (outcome_protect_of_ok hpasses.authenticate)
  · constructor
    · rintro ⟨status, description, haborts⟩ ⟨raw, claims, hpasses⟩
      obtain ⟨failure, hfails, -⟩ := haborts.authenticate
      rw [hpasses.authenticate] at hfails
      cases hfails
    · exact (exists_passes_or_aborts registry guard request).resolve_left
  · intro status description other otherDescription haborts hother
    obtain ⟨failure, hfails, hresponse⟩ := haborts.authenticate
    obtain ⟨otherFailure, hotherFails, hotherResponse⟩ := hother.authenticate
    rw [hfails] at hotherFails
    cases hotherFails
    rw [hresponse] at hotherResponse
    exact Prod.mk.inj hotherResponse

private def lenientScript : Keyholder := .scripted ⟨0, .answer true, .answer true⟩

private def decliningScript : Keyholder := .scripted ⟨0, .answer false, .answer false⟩

/-- A guard for any claims, which is handed an unsigned token. -/
private def unsignedGuard (verifiers : List Keyholder) : Guard where
  verifiers := verifiers
  claimsType := .schema .any
  extractor := .supplied (.ok (.text "eyJhbGciOiJub25lIn0.MQ.")) true

/-- The same with claims that an application refuses in its own words. -/
private def refusingGuard : Guard where
  verifiers := [lenientScript]
  claimsType := .custom fun _ =>
    .error (.refused ⟨.authError, "no", .text "No", 403, none⟩)
  extractor := .supplied (.ok (.text "eyJhbGciOiJub25lIn0.MQ.")) true

/-- The same with a token whose text has no bytes. -/
private def loneGuard (verifiers : List Keyholder) : Guard where
  verifiers := verifiers
  claimsType := .schema .any
  extractor := .supplied (.ok RawToken.loneToken) true

private def echo (data : TokenData) : Traced Value := pure data.claims

private theorem aborts_loneGuard (verifiers : List Keyholder) :
    (loneGuard verifiers).Aborts ⟨true, ⟨""⟩⟩ ⟨[], "/"⟩ 401 (.text "Authentication failed") := by
  obtain ⟨raw, hread, hnone, -⟩ := RawToken.exists_loneToken
  exact aborts_of_no_message rfl hread hnone

/-- The unsigned token passes if a verifier of the application says so and its claims are wanted,
and not without a verifier. -/
theorem serve_fails_closed_of_unsigned :
    (∃ (raw : RawToken) (claims : Value),
      ((unsignedGuard [lenientScript]).serve ⟨true, ⟨""⟩⟩ ⟨[], "/"⟩ echo none).answer.outcome =
          .ok (.viewed claims) ∧
        ((unsignedGuard [lenientScript]).serve ⟨true, ⟨""⟩⟩ ⟨[], "/"⟩ echo none).current =
          some ⟨raw.header, claims⟩) ∧
      ((unsignedGuard []).serve ⟨true, ⟨""⟩⟩ ⟨[], "/"⟩ echo none).answer.outcome =
        .ok (.page 401 (.text "Invalid signature")) ∧
      (refusingGuard.serve ⟨true, ⟨""⟩⟩ ⟨[], "/"⟩ echo none).answer.outcome =
        .ok (.page 403 (.text "No")) ∧
      ((loneGuard []).serve ⟨true, ⟨""⟩⟩ ⟨[], "/"⟩ echo none).answer.outcome =
        .ok (.page 401 (.text "Authentication failed")) := by
  have hdecodes : (RawToken.decode ⟨true, ⟨""⟩⟩
      (.text "eyJhbGciOiJub25lIn0.MQ.")).outcome.toOption.any
        (fun raw => (raw.claims (.schema .any)).toOption.any fun _ => true) = true := by
    decide +kernel
  obtain ⟨raw, hread, hpayload⟩ := exists_ok_of_any hdecodes
  obtain ⟨claims, hclaims, -⟩ := exists_ok_of_any hpayload
  obtain ⟨message, hmessage⟩ :=
    RawToken.exists_message?_of_read (RawToken.outcome_decode_eq_ok_iff.mp hread)
  have hlenient : (raw.verifyAny [lenientScript]).outcome = .ok true := by
    rw [RawToken.verifyAny_cons hmessage, RawToken.outcome_verify,
      RawToken.encoded_of_message? hmessage]
    rfl
  refine ⟨?_, ?_, ?_, ?_⟩
  · have hpasses : (unsignedGuard [lenientScript]).Passes ⟨true, ⟨""⟩⟩ ⟨[], "/"⟩ raw claims :=
      ⟨⟨_, rfl, hread⟩, hlenient, hclaims⟩
    have hserved := (serve_fails_closed _ _ _ echo none).1 raw claims hpasses
    rw [hserved]
    exact ⟨raw, claims, rfl, rfl⟩
  · have haborts : (unsignedGuard []).Aborts ⟨true, ⟨""⟩⟩ ⟨[], "/"⟩ 401
        (.text "Invalid signature") :=
      .unverified _ raw rfl hread (RawToken.verifyAny_nil hmessage)
    have hserved := (serve_fails_closed _ _ _ echo none).2.1 _ _ haborts
    rw [hserved]
    rfl
  · have hrefuses : raw.claims refusingGuard.claimsType =
        .error (.refused ⟨.authError, "no", .text "No", 403, none⟩) := by
      cases hbytes : Base64.Url.decode raw.payload with
      | ok bytes =>
          rw [RawToken.claims, ClaimsType.decode, hbytes]
          rfl
      | error failure =>
          rw [RawToken.claims, ClaimsType.decode, hbytes] at hclaims
          cases hclaims
    have haborts : refusingGuard.Aborts ⟨true, ⟨""⟩⟩ ⟨[], "/"⟩ 403 (.text "No") :=
      .claimsRefuse _ raw _ rfl hread hlenient hrefuses
    have hserved := (serve_fails_closed _ _ _ echo none).2.1 _ _ haborts
    rw [hserved]
    rfl
  · have hserved := (serve_fails_closed _ _ _ echo none).2.1 _ _ (aborts_loneGuard [])
    rw [hserved]
    rfl

/-- No verifier accepts a token whose text has no bytes, and one that is asked about it on its own
declines; but the page is not the one for tokens that no verifier accepts, with the verifier and
without any. -/
theorem not_unverified_without_bytes :
    (∃ raw, (RawToken.decode ⟨true, ⟨""⟩⟩ RawToken.loneToken).outcome = .ok raw ∧
      (raw.verify decliningScript).outcome = .ok false) ∧
    ((loneGuard [decliningScript]).serve ⟨true, ⟨""⟩⟩ ⟨[], "/"⟩ echo none).answer.outcome =
      .ok (.page 401 (.text "Authentication failed")) ∧
    ((loneGuard []).serve ⟨true, ⟨""⟩⟩ ⟨[], "/"⟩ echo none).answer.outcome =
      .ok (.page 401 (.text "Authentication failed")) := by
  obtain ⟨raw, hread, -⟩ := RawToken.exists_loneToken
  refine ⟨⟨raw, hread, rfl⟩, ?_, ?_⟩
  · rw [(aborts_loneGuard [decliningScript]).serve]
    rfl
  · rw [(aborts_loneGuard []).serve]
    rfl

end SignedToken.Guard
