import SignedToken.Proofs.Claims.Stability
import SignedToken.Proofs.Header.NormalForm
import SignedToken.Proofs.Token.Passage

/-!
# Refreshed tokens

Claims that were read from a token by a schema may be signed again, under whatever
header and by whomever, and read by the same schema from the new token.  They are
the same claims, however freely the schema took them from the first token.
-/

namespace SignedToken.RawToken

/-- Claims that a schema of the catalog read from a segment can be written again, unless a double
stands in them, and the schema reads the same claims from what is written.  So it does from every
token that is issued with these claims. -/
theorem refreshed_claims_unchanged {name : String} {schema : Schema}
    (hschema : (name, schema) ∈ Schema.catalog) {claims : Value}
    (hread : Segment.YieldsBy schema claims) (hfloat : ¬claims.HasFloat) :
    (∃ segment, Segment.encode claims = .ok segment ∧
      Segment.decode schema segment = .ok claims) ∧
    ∀ registry (data : TokenData) holder token, data.claims = claims →
      data.header.Declarable registry → data.signWith holder = .ok token →
      ∃ raw, (decode registry (.text token)).outcome = .ok raw ∧ raw.header = data.header ∧
        raw.claims (.schema schema) = .ok claims := by
  have hregular : schema.Regular := Schema.regular_of_mem_catalog _ hschema
  obtain ⟨segment, hencode, hdecode⟩ :=
    Segment.decode_encode_of_yieldsBy hregular hread hfloat
  refine ⟨⟨segment, hencode, hdecode⟩, ?_⟩
  rintro registry data holder token rfl hdeclarable hsigned
  obtain ⟨raw, hraw, hheader, -, ⟨payload, hpayload, hsame⟩, -⟩ :=
    TokenData.exists_read_of_signWith hdeclarable hsigned
  obtain rfl : segment = payload := Except.ok.inj (hencode.symm.trans hpayload)
  refine ⟨raw, hraw, hheader, ?_⟩
  rw [claims_schema, hsame, hdecode]
  rfl

/-- An object with an integer that is written as a text with blanks, a sign, zeros in front and a
place after the point, with a member that the schema does not know, and with a name that a double
is given for first. -/
private def lenient : String :=
  "eyJpYXQiOiIgKzAwMTcuMCIsIngiOjEuNSwibmFtZSI6Im4iLCJzdWIiOjEuNSwic3ViIjoidCJ9"

private def lenientClaims : Value :=
  .record ⟨"JwtIoClaims", .model⟩ [("sub", .text "t"), ("name", .text "n"), ("iat", .int 17)]

private def isLenientClaims : Value → Bool
  | .record ⟨"JwtIoClaims", .model⟩ [("sub", .text "t"), ("name", .text "n"), ("iat", .int 17)] =>
    true
  | _ => false

private theorem eq_lenientClaims {claims : Value} (h : isLenientClaims claims = true) :
    claims = lenientClaims := by
  unfold isLenientClaims at h
  split at h
  · rfl
  · cases h

private theorem decode_lenient :
    Segment.decode Schema.jwtIoClaims lenient = .ok lenientClaims := by
  have hread :
      (Segment.decode Schema.jwtIoClaims lenient).toOption.any isLenientClaims = true := by
    decide +kernel
  obtain ⟨claims, hdecode, hclaims⟩ := exists_ok_of_any hread
  rw [hdecode, eq_lenientClaims hclaims]

private def refreshed : TokenData := ⟨Header.ofAlgorithm none, lenientClaims⟩

theorem refreshed_claims_unchanged_of_lenient :
    Segment.decode Schema.jwtIoClaims lenient = .ok lenientClaims ∧ ¬lenientClaims.HasFloat ∧
      (∃ segment, segment ≠ lenient ∧ Segment.encode lenientClaims = .ok segment ∧
        Segment.decode Schema.jwtIoClaims segment = .ok lenientClaims) ∧
      ∃ token raw, refreshed.signWith (.key (.secret .sha256 [107])) = .ok token ∧
        (decode ⟨true, ⟨""⟩⟩ (.text token)).outcome = .ok raw ∧
        raw.claims (.schema Schema.jwtIoClaims) = .ok lenientClaims := by
  have hfloat : ¬lenientClaims.HasFloat := by
    intro hinside
    cases hinside with
    | field type fields field hfield hinside =>
        simp only [List.mem_cons, List.not_mem_nil, or_false] at hfield
        obtain rfl | rfl | rfl := hfield <;> cases hinside
  have hschema : ("JwtIoClaims", Schema.jwtIoClaims) ∈ Schema.catalog := by
    simp [Schema.catalog]
  obtain ⟨⟨segment, hencode, hsegment⟩, hissued⟩ :=
    refreshed_claims_unchanged hschema (.inl ⟨_, decode_lenient⟩) hfloat
  have hchanged : (Segment.encode lenientClaims).toOption.any (· ≠ lenient) = true := rfl
  have hsigned : (refreshed.signWith (.key (.secret .sha256 [107]))).toOption.any
      (fun _ => true) = true := rfl
  obtain ⟨token, htoken, -⟩ := exists_ok_of_any hsigned
  have hdeclarable : refreshed.header.Declarable ⟨true, ⟨""⟩⟩ := by
    rintro algorithm ⟨⟩
  obtain ⟨raw, hraw, -, hclaims⟩ := hissued _ refreshed _ token rfl hdeclarable htoken
  have hother : segment ≠ lenient := by
    rw [hencode] at hchanged
    simpa [Except.toOption] using hchanged
  exact ⟨decode_lenient, hfloat, ⟨segment, hother, hencode, hsegment⟩, token, raw, htoken, hraw,
    hclaims⟩

end SignedToken.RawToken
