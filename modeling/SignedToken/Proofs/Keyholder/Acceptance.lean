import Mathlib
import SignedToken.Token.Raw

/-!
# When a key holder accepts a token

A key inside wrappers answers every question without failing.  Its answer about
a header has a closed form: either the header names no key and the outermost
wrapper lets that pass, or the header declares the algorithm of the key and names
the key id of every wrapper.  A search among several key holders comes down to
the first one that accepts.  A signature is one of bytes, and a text may have none:
then a key holder fails if it accepts the header, and a search fails at once.
-/

namespace SignedToken

/-- An outcome that passes a check is a result. -/
theorem exists_ok_of_any {ε α : Type} {outcome : Except ε α} {check : α → Bool}
    (h : outcome.toOption.any check = true) :
    ∃ result, outcome = .ok result ∧ check result = true := by
  cases outcome with
  | error failure => cases h
  | ok result => exact ⟨result, rfl, h⟩

namespace Keyholder

/-- Whether a header that names no key is let pass, which the outermost wrapper alone decides. -/
def waivesKeyId : Keyholder → Bool
  | .withKeyId _ _ acceptMissing => acceptMissing
  | _ => false

/-- Whether a header is one for a key with this algorithm inside the wrappers of a key holder. -/
def Suits (header : Header) (holder : Keyholder) (algorithm : Algorithm) : Prop :=
  (header.keyId = none ∧ holder.waivesKeyId = true) ∨
    (header.algorithm = some algorithm ∧
      (holder.keyIds = [] ∨
        ∃ keyId, header.keyId = some keyId ∧ ∀ other ∈ holder.keyIds, other = keyId))

variable {header : Header} {holder : Keyholder} {backend : Backend}

/-- A key id in the header has to be that of every wrapper. -/
theorem suits_iff_of_keyId {given : Text} (hgiven : header.keyId = some given)
    (algorithm : Algorithm) :
    Suits header holder algorithm ↔
      header.algorithm = some algorithm ∧ ∀ other ∈ holder.keyIds, other = given := by
  simp only [Suits, hgiven, reduceCtorEq, false_and, false_or, Option.some.injEq,
    exists_eq_left']
  refine and_congr_right fun _ => ⟨?_, .inr⟩
  rintro (hnone | hall)
  · simp [hnone]
  · exact hall

/-- A wrapper hands the header on exactly if the header names its key id, so all wrappers have to
agree with the header. -/
theorem checkHeader_outcome (h : holder.innermost = .key backend) (header : Header) :
    ∃ accepted, (checkHeader header holder).outcome = .ok accepted ∧
      (accepted = true ↔ Suits header holder backend.algorithm) := by
  induction holder with
  | key inside =>
      cases h
      refine ⟨_, rfl, ?_⟩
      simp [Backend.acceptsHeader, Header.uses, Suits, waivesKeyId, keyIds]
  | withKeyId keyId inner acceptMissing ih =>
      cases hgiven : header.keyId with
      | none =>
          refine ⟨acceptMissing, by rw [checkHeader, hgiven]; rfl, ?_⟩
          simp [Suits, waivesKeyId, keyIds, hgiven]
      | some given =>
          rw [suits_iff_of_keyId hgiven, keyIds, List.forall_mem_cons]
          by_cases hsame : given = keyId
          · obtain ⟨accepted, houtcome, hiff⟩ := ih h
            rw [suits_iff_of_keyId hgiven] at hiff
            refine ⟨accepted, ?_, by simp [hiff, hsame]⟩
            rw [checkHeader, hgiven]
            simp only [if_pos hsame, houtcome]
          · refine ⟨false, ?_, by simp [Ne.symm hsame]⟩
            rw [checkHeader, hgiven]
            simp only [if_neg hsame]
            rfl
  | scripted script => cases h

/-- Signatures are checked by the key inside, whatever is around it. -/
theorem checkSignature_outcome (h : holder.innermost = .key backend) (message signature : Bytes) :
    (checkSignature message signature holder).outcome = .ok (backend.verify message signature) := by
  induction holder with
  | key inside =>
      cases h
      rfl
  | withKeyId keyId inner acceptMissing ih => exact ih h
  | scripted script => cases h

theorem sign_eq (h : holder.innermost = .key backend) (message : Bytes) :
    holder.sign message = backend.sign message := by
  induction holder with
  | key inside =>
      cases h
      rfl
  | withKeyId keyId inner acceptMissing ih => exact ih h
  | scripted script => cases h

theorem algorithm_eq (h : holder.innermost = .key backend) :
    holder.algorithm = .ok backend.algorithm := by
  induction holder with
  | key inside =>
      cases h
      rfl
  | withKeyId keyId inner acceptMissing ih => exact ih h
  | scripted script => cases h

end Keyholder

/-! ## Tokens -/

namespace RawToken

open Keyholder

variable {raw : RawToken}

theorem messageBy_of_message? {m : Type → Type} [Monad m] {α : Type}
    (protocol : VerifierProtocol m α) {message : Bytes} (h : raw.message? = some message) :
    raw.messageBy protocol = pure message := by
  rw [message?] at h
  simp only [messageBy, Text.encoded, h]

theorem messageBy_of_none {m : Type → Type} [Monad m] {α : Type}
    (protocol : VerifierProtocol m α) (h : raw.message? = none) :
    raw.messageBy protocol = protocol.fail .notEncodable := by
  rw [message?] at h
  simp only [messageBy, Text.encoded, h]

/-- The header is asked about before the text is encoded, and the signature last. -/
theorem outcome_verify (raw : RawToken) (verifier : Keyholder) :
    (raw.verify verifier).outcome =
      (verifier.checkHeader raw.header).outcome >>= fun accepted =>
        if accepted then
          raw.headerAndPayload.encoded >>= fun message =>
            (verifier.checkSignature message raw.signature).outcome
        else .ok false := by
  rw [verify, verifyBy, Traced.outcome_bind]
  congr 1
  funext accepted
  cases accepted with
  | false => rfl
  | true =>
      show (raw.messageBy protocol >>= _).outcome = _
      rw [Traced.outcome_bind, if_pos rfl, messageBy]
      cases raw.headerAndPayload.encoded <;> rfl

theorem encoded_of_message? {message : Bytes} (h : raw.message? = some message) :
    raw.headerAndPayload.encoded = .ok message := by
  rw [message?] at h
  rw [Text.encoded, h]

theorem encoded_of_none (h : raw.message? = none) :
    raw.headerAndPayload.encoded = .error .notEncodable := by
  rw [message?] at h
  rw [Text.encoded, h]

section Key

variable {holder : Keyholder} {backend : Backend}

/-- A key inside wrappers gives a verdict on every token that there are bytes of. -/
theorem verify_outcome (h : holder.innermost = .key backend) {message : Bytes}
    (hmessage : raw.message? = some message) :
    ∃ verdict, (raw.verify holder).outcome = .ok verdict ∧
      (verdict = true ↔ Suits raw.header holder backend.algorithm ∧
        backend.verify message raw.signature = true) := by
  obtain ⟨accepted, hheader, hiff⟩ := checkHeader_outcome h raw.header
  have hsignature := checkSignature_outcome h message raw.signature
  rw [← hiff, outcome_verify, hheader, encoded_of_message? hmessage]
  cases accepted with
  | false => exact ⟨false, rfl, by simp⟩
  | true => exact ⟨_, hsignature, by simp⟩

/-- On any other token it fails, unless it does not accept the header. -/
theorem verify_outcome_of_none (h : holder.innermost = .key backend)
    (hmessage : raw.message? = none) :
    (raw.verify holder).outcome = .error .notEncodable ∧
        Suits raw.header holder backend.algorithm ∨
      (raw.verify holder).outcome = .ok false ∧
        ¬Suits raw.header holder backend.algorithm := by
  obtain ⟨accepted, hheader, hiff⟩ := checkHeader_outcome h raw.header
  rw [← hiff, outcome_verify, hheader, encoded_of_none hmessage]
  cases accepted with
  | false => exact .inr ⟨rfl, by simp⟩
  | true => exact .inl ⟨rfl, rfl⟩

/-- Accepted are the tokens with a suitable header, a text that has bytes, and their
signature. -/
theorem verify_eq_true_iff (h : holder.innermost = .key backend) :
    (raw.verify holder).outcome = .ok true ↔
      Suits raw.header holder backend.algorithm ∧
        ∃ message, raw.message? = some message ∧
          backend.verify message raw.signature = true := by
  cases hmessage : raw.message? with
  | some message =>
      obtain ⟨verdict, houtcome, hiff⟩ := verify_outcome h hmessage
      simp [houtcome, hiff]
  | none =>
      obtain ⟨houtcome, -⟩ | ⟨houtcome, -⟩ := verify_outcome_of_none h hmessage
      · simp [houtcome]
      · simp [houtcome]

end Key

/-! ## Searching -/

/-- A search asks for the bytes first, whatever the verifiers are. -/
theorem verifyAny_of_none (h : raw.message? = none) (verifiers : List Keyholder) :
    raw.verifyAny verifiers = .fail .notEncodable := by
  rw [verifyAny, verifyAnyBy, messageBy_of_none protocol h]
  rfl

private theorem outcome_verifyAny {message : Bytes} (h : raw.message? = some message)
    (verifiers : List Keyholder) :
    (raw.verifyAny verifiers).outcome =
      (Dispatch.firstAccepting (checkHeader raw.header) (checkSignature message raw.signature)
        (fun verifier => Traced.remark (.signatureVerified verifier.name))
        (verifiers.map pure)).outcome := by
  rw [verifyAny, verifyAnyBy, messageBy_of_message? protocol h]
  show (Dispatch.firstAccepting (checkHeader raw.header) (checkSignature message raw.signature)
    (fun verifier => Traced.remark (.signatureVerified verifier.name))
    (verifiers.map pure) >>= _).outcome = _
  rw [Traced.outcome_bind]
  generalize (Dispatch.firstAccepting (m := Traced) _ _ _ (verifiers.map pure)).outcome = searched
  cases searched with
  | error failure => rfl
  | ok accepted => cases accepted <;> rfl

theorem verifyAny_nil {message : Bytes} (h : raw.message? = some message) :
    (raw.verifyAny []).outcome = .ok false := by
  rw [outcome_verifyAny h]
  rfl

/-- A search that comes to an end had the bytes of the token. -/
theorem exists_message?_of_verifyAny {verifiers : List Keyholder} {accepted : Bool}
    (h : (raw.verifyAny verifiers).outcome = .ok accepted) :
    ∃ message, raw.message? = some message := by
  cases hmessage : raw.message? with
  | some message => exact ⟨message, rfl⟩
  | none =>
      rw [verifyAny_of_none hmessage] at h
      cases h

/-- The first key holder decides the search if it accepts or fails; otherwise the others do. -/
theorem verifyAny_cons {message : Bytes} (h : raw.message? = some message)
    (verifier : Keyholder) (others : List Keyholder) :
    (raw.verifyAny (verifier :: others)).outcome =
      (raw.verify verifier).outcome >>= fun accepted =>
        if accepted then .ok true else (raw.verifyAny others).outcome := by
  rw [outcome_verifyAny h, outcome_verifyAny h, outcome_verify, encoded_of_message? h,
    List.map_cons, Dispatch.firstAccepting]
  show (checkHeader raw.header verifier >>= _).outcome = _
  rw [Traced.outcome_bind]
  generalize (verifier.checkHeader raw.header).outcome = header
  cases header with
  | error failure => rfl
  | ok accepted =>
      cases accepted with
      | false => rfl
      | true =>
          show (checkSignature message raw.signature verifier >>= _).outcome =
            (checkSignature message raw.signature verifier).outcome >>= _
          rw [Traced.outcome_bind]
          generalize (verifier.checkSignature message raw.signature).outcome = signature
          cases signature with
          | error failure => rfl
          | ok verified => cases verified <;> rfl

/-- A key holder that accepts a token had its bytes. -/
theorem exists_message?_of_verify {verifier : Keyholder}
    (h : (raw.verify verifier).outcome = .ok true) : ∃ message, raw.message? = some message := by
  cases hmessage : raw.message? with
  | some message => exact ⟨message, rfl⟩
  | none =>
      rw [outcome_verify, encoded_of_none hmessage] at h
      cases hheader : (verifier.checkHeader raw.header).outcome with
      | error failure => simp [hheader, bind, Except.bind] at h
      | ok accepted => cases accepted <;> simp [hheader, bind, Except.bind] at h

theorem verifyAny_cons_eq_true_iff {verifier : Keyholder} {others : List Keyholder} :
    (raw.verifyAny (verifier :: others)).outcome = .ok true ↔
      (raw.verify verifier).outcome = .ok true ∨
        (raw.verify verifier).outcome = .ok false ∧ (raw.verifyAny others).outcome = .ok true := by
  have hcons {message : Bytes} (hmessage : raw.message? = some message) :
      (raw.verifyAny (verifier :: others)).outcome = .ok true ↔
        (raw.verify verifier).outcome = .ok true ∨
          (raw.verify verifier).outcome = .ok false ∧
            (raw.verifyAny others).outcome = .ok true := by
    rw [verifyAny_cons hmessage]
    cases (raw.verify verifier).outcome with
    | error failure => simp [bind, Except.bind]
    | ok accepted => cases accepted <;> simp [bind, Except.bind]
  constructor
  · intro h
    obtain ⟨message, hmessage⟩ := exists_message?_of_verifyAny h
    exact (hcons hmessage).mp h
  · intro h
    obtain ⟨message, hmessage⟩ : ∃ message, raw.message? = some message := by
      obtain hverifier | ⟨-, hothers⟩ := h
      · exact exists_message?_of_verify hverifier
      · exact exists_message?_of_verifyAny hothers
    exact (hcons hmessage).mpr h

theorem verifyAny_cons_eq_false_iff {verifier : Keyholder} {others : List Keyholder} :
    (raw.verifyAny (verifier :: others)).outcome = .ok false ↔
      (raw.verify verifier).outcome = .ok false ∧
        (raw.verifyAny others).outcome = .ok false := by
  have hcons {message : Bytes} (hmessage : raw.message? = some message) :
      (raw.verifyAny (verifier :: others)).outcome = .ok false ↔
        (raw.verify verifier).outcome = .ok false ∧
          (raw.verifyAny others).outcome = .ok false := by
    rw [verifyAny_cons hmessage]
    cases (raw.verify verifier).outcome with
    | error failure => simp [bind, Except.bind]
    | ok accepted => cases accepted <;> simp [bind, Except.bind]
  constructor
  · intro h
    obtain ⟨message, hmessage⟩ := exists_message?_of_verifyAny h
    exact (hcons hmessage).mp h
  · intro h
    obtain ⟨message, hmessage⟩ := exists_message?_of_verifyAny h.2
    exact (hcons hmessage).mpr h

/-- A search that accepts nothing so far goes on with the others. -/
theorem verifyAny_append {before : List Keyholder} (h : (raw.verifyAny before).outcome = .ok false)
    (others : List Keyholder) :
    (raw.verifyAny (before ++ others)).outcome = (raw.verifyAny others).outcome := by
  induction before with
  | nil => rfl
  | cons verifier before ih =>
      obtain ⟨hverifier, hbefore⟩ := verifyAny_cons_eq_false_iff.mp h
      obtain ⟨message, hmessage⟩ := exists_message?_of_verifyAny h
      rw [List.cons_append, verifyAny_cons hmessage, hverifier]
      exact ih hbefore

/-- A token is accepted by way of a key holder in a list if none before it accepts the token, and
the search that goes on up to it does. -/
def AcceptedBy (raw : RawToken) (verifiers : List Keyholder) (verifier : Keyholder) : Prop :=
  ∃ before after, verifiers = before ++ verifier :: after ∧
    (raw.verifyAny before).outcome = .ok false ∧
    (raw.verifyAny (before ++ [verifier])).outcome = .ok true

theorem AcceptedBy.verify {verifiers : List Keyholder} {verifier : Keyholder}
    (h : raw.AcceptedBy verifiers verifier) : (raw.verify verifier).outcome = .ok true := by
  obtain ⟨before, after, -, hbefore, hupTo⟩ := h
  obtain ⟨message, hmessage⟩ := exists_message?_of_verifyAny hbefore
  rw [verifyAny_append hbefore, verifyAny_cons_eq_true_iff, verifyAny_nil hmessage] at hupTo
  simpa using hupTo

/-- Every search that accepts a token does so by way of one key holder of the list. -/
theorem exists_acceptedBy {verifiers : List Keyholder}
    (h : (raw.verifyAny verifiers).outcome = .ok true) :
    ∃ verifier, raw.AcceptedBy verifiers verifier := by
  obtain ⟨message, hmessage⟩ := exists_message?_of_verifyAny h
  induction verifiers with
  | nil =>
      rw [verifyAny_nil hmessage] at h
      cases h
  | cons verifier others ih =>
      obtain haccepts | ⟨hrejects, hothers⟩ := verifyAny_cons_eq_true_iff.mp h
      · exact ⟨verifier, [], others, rfl, verifyAny_nil hmessage,
          verifyAny_cons_eq_true_iff.mpr (.inl haccepts)⟩
      · obtain ⟨accepting, before, after, rfl, hbefore, hupTo⟩ := ih hothers
        exact ⟨accepting, verifier :: before, after, rfl,
          verifyAny_cons_eq_false_iff.mpr ⟨hrejects, hbefore⟩,
          verifyAny_cons_eq_true_iff.mpr (.inr ⟨hrejects, hupTo⟩)⟩

/-! ## A token without bytes -/

/-- An unsigned token with a lone surrogate for its payload. -/
def loneToken : Value := .text ("eyJhbGciOiJub25lIn0." ++ ⟨[.surrogate 0]⟩ ++ ".")

/-- A token may be read although its text has no bytes. -/
theorem exists_loneToken :
    ∃ raw, (decode ⟨true, ⟨""⟩⟩ loneToken).outcome = .ok raw ∧ raw.message? = none ∧
      raw.header = ⟨none, none, none, none⟩ := by
  have hdecodes : (decode ⟨true, ⟨""⟩⟩ loneToken).outcome.toOption.any (fun raw =>
      raw.message? == none && raw.header == ⟨none, none, none, none⟩) = true := by
    decide +kernel
  obtain ⟨raw, hraw, hholds⟩ := exists_ok_of_any hdecodes
  rw [Bool.and_eq_true, beq_iff_eq, beq_iff_eq] at hholds
  exact ⟨raw, hraw, hholds.1, hholds.2⟩

end RawToken

end SignedToken
