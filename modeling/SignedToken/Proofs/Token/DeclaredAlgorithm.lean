import SignedToken.Proofs.Keyholder.Acceptance

/-!
# The algorithm that a token declares

A signature is checked without regard to the algorithm that the header declares,
so everything rests on the check of the header.  A key accepts only headers that
declare its algorithm, and wrappers hand this on but for one exception: a wrapper
that waives the key id accepts a header without one whatever it declares.
-/

namespace SignedToken.RawToken

open Keyholder

/-- A header that the outermost wrapper waives through declares what it likes: the verdict is that
of the signature alone, if there are bytes that it may be a signature of. -/
private theorem verify_of_waived {raw : RawToken} {verifier : Keyholder} {backend : Backend}
    (hinner : verifier.innermost = .key backend) (hmissing : raw.header.keyId = none)
    (hwaives : verifier.waivesKeyId = true) :
    (raw.verify verifier).outcome =
      raw.headerAndPayload.encoded.map (backend.verify · raw.signature) := by
  obtain ⟨accepted, hheader, hiff⟩ := checkHeader_outcome hinner raw.header
  obtain rfl : accepted = true := hiff.mpr (.inl ⟨hmissing, hwaives⟩)
  rw [outcome_verify, hheader]
  simp only [checkSignature_outcome hinner]
  cases raw.headerAndPayload.encoded <;> rfl

private theorem declares_or_waived {raw : RawToken} {verifier : Keyholder} {backend : Backend}
    (hinner : verifier.innermost = .key backend)
    (haccepted : (raw.verify verifier).outcome = .ok true) :
    raw.header.algorithm = some backend.algorithm ∨
      raw.header.keyId = none ∧ verifier.waivesKeyId = true := by
  obtain hwaived | hdeclares := ((verify_eq_true_iff hinner).mp haccepted).1
  · exact .inr hwaived
  · exact .inl hdeclares.1

/-- A token that is accepted by way of a key inside wrappers declares the algorithm of the key,
unless it names no key and the outermost wrapper waives that.  A search that accepts a token always
does so by way of one key holder.  Where the wrapper waives the key id, the declared algorithm does
not matter at all, so that the exception cannot be made smaller. -/
theorem accepted_declares_algorithm (raw : RawToken) :
    (∀ verifier backend, verifier.innermost = .key backend →
      ((raw.verify verifier).outcome = .ok true ∨
        ∃ verifiers, raw.AcceptedBy verifiers verifier) →
      raw.header.algorithm = some backend.algorithm ∨
        raw.header.keyId = none ∧ verifier.waivesKeyId = true) ∧
    (∀ verifiers, (raw.verifyAny verifiers).outcome = .ok true →
      ∃ verifier, raw.AcceptedBy verifiers verifier) ∧
    (∀ verifier backend, verifier.innermost = .key backend → raw.header.keyId = none →
      verifier.waivesKeyId = true →
      (raw.verify verifier).outcome =
        raw.headerAndPayload.encoded.map (backend.verify · raw.signature)) := by
  refine ⟨?_, ?_, ?_⟩
  · rintro verifier backend hinner (haccepted | ⟨verifiers, haccepted⟩)
    · exact declares_or_waived hinner haccepted
    · exact declares_or_waived hinner haccepted.verify
  · exact fun verifiers haccepted => exists_acceptedBy haccepted
  · exact fun verifier backend => verify_of_waived

/-- A secret whose wrapper waives the key id. -/
private def waivingSecret : Keyholder := .withKeyId "a" (.key (.secret .sha256 [107])) true

private def allEnabled : Registry := ⟨true, ⟨""⟩⟩

/-- A token of the secret, and one that it signed though the header declares no algorithm. -/
private def declaringToken : Value :=
  .text "eyJhbGciOiJIUzI1NiIsImtpZCI6ImEifQ.MQ.k_4cgjhRZU7-oFKVgiesplayzSd9YqjuH5mHGAWso94"

private def unsignedToken : Value :=
  .text "eyJhbGciOiJub25lIn0.MQ.rQCUKoaW786UYgdMIyltiS9RyorB4V8lH8iE1v-hrAM"

private theorem exists_accepted_of_any (token : Value) (check : RawToken → Bool)
    (h : (decode allEnabled token).outcome.toOption.any (fun raw =>
      (raw.verify waivingSecret).outcome.toOption.any id && check raw) = true) :
    ∃ raw, (decode allEnabled token).outcome = .ok raw ∧
      (raw.verify waivingSecret).outcome = .ok true ∧ check raw = true := by
  obtain ⟨raw, hread, hraw⟩ := exists_ok_of_any h
  obtain ⟨hverify, hcheck⟩ := Bool.and_eq_true_iff.mp hraw
  obtain ⟨_, haccepted, rfl⟩ := exists_ok_of_any hverify
  exact ⟨raw, hread, haccepted, hcheck⟩

theorem accepted_declares_algorithm_of_secret :
    ∃ raw, (decode allEnabled declaringToken).outcome = .ok raw ∧
      (raw.verify waivingSecret).outcome = .ok true ∧
      raw.header.algorithm = some ⟨.hmac, .sha256⟩ := by
  obtain ⟨raw, hread, haccepted, hkeyId⟩ :=
    exists_accepted_of_any declaringToken (fun raw => raw.header.keyId.isSome)
      (by decide +kernel)
  obtain hdeclares | hwaived :=
    (accepted_declares_algorithm raw).1 waivingSecret _ rfl (.inl haccepted)
  · exact ⟨raw, hread, haccepted, hdeclares⟩
  · rw [hwaived.1] at hkeyId
    cases hkeyId

/-- Without the exception the statement is false: a token that declares no algorithm and names no
key is accepted by way of a secret whose wrapper waives the key id. -/
theorem unsigned_token_accepted_when_waived :
    ¬∀ (registry : Registry) (token : Value) (raw : RawToken) (verifier : Keyholder)
        (backend : Backend), (decode registry token).outcome = .ok raw →
      verifier.innermost = .key backend → (raw.verify verifier).outcome = .ok true →
      raw.header.algorithm = some backend.algorithm := by
  intro hclaim
  obtain ⟨raw, hread, haccepted, hnone⟩ :=
    exists_accepted_of_any unsignedToken (fun raw => raw.header.algorithm.isNone)
      (by decide +kernel)
  have hdeclares := hclaim allEnabled unsignedToken raw waivingSecret _ hread rfl haccepted
  rw [hdeclares] at hnone
  cases hnone

end SignedToken.RawToken
