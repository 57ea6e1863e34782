import SignedToken.Proofs.Header.RoundTrip
import SignedToken.Proofs.Keyholder.Acceptance
import SignedToken.Proofs.Registry.Making
import SignedToken.Proofs.Rsa.OwnSignature
import SignedToken.Proofs.Token.Format
import SignedToken.Token.Data

/-!
# From the issuer to the recipient

What is issued is received: a token that a key holder signs has three segments
of symbols, and header, claims and signature are read back from them as they
were written.  The key holder itself accepts its tokens unless its wrappers
contradict each other about the key id.
-/

namespace SignedToken

namespace Backend

end Backend

/-! ## Headers -/

namespace Keyholder

variable {holder : Keyholder} {backend : Backend} {header : Header}

end Keyholder

/-! ## Tokens -/

namespace TokenData

variable {data : TokenData} {holder : Keyholder} {token : String}

theorem signingInput_eq_ok_iff {input : String} :
    data.signingInput = .ok input ↔
      ∃ header claims, data.header.encode = .ok header ∧
        Segment.encode data.claims = .ok claims ∧ input = header ++ "." ++ claims := by
  rw [signingInput]
  cases data.header.encode <;> cases Segment.encode data.claims <;>
    simp [bind, Except.bind, pure, Except.pure, eq_comm]

/-- A token is its signing input and the signature of that, with a dot between them. -/
theorem signWith_eq_ok_iff :
    data.signWith holder = .ok token ↔
      ∃ input signature, data.signingInput = .ok input ∧
        holder.sign (Utf8.encode input) = .ok signature ∧
        token = input ++ "." ++ Base64.Url.encode signature := by
  rw [signWith]
  cases data.signingInput with
  | error failure => simp [bind, Except.bind]
  | ok input =>
      cases hsign : holder.sign (Utf8.encode input) <;>
        simp [bind, Except.bind, pure, Except.pure, eq_comm, hsign]

private theorem dot_notMem_of_isSymbol {text : String}
    (h : ∀ char ∈ text.toList, Base64.isSymbol char = true) :
    RawToken.dot ∉ (text : Text).toList := by
  intro hdot
  obtain ⟨char, hchar, heq⟩ := List.mem_map.mp hdot
  cases heq
  exact absurd (h '.' hchar) (by decide)

/-- An issued token is made of symbols and of the two dots between its segments. -/
theorem exists_segments_of_signWith (h : data.signWith holder = .ok token) :
    (∀ char ∈ token.toList, char = '.' ∨ Base64.isSymbol char = true) ∧
      ∃ header claims signature, data.header.encode = .ok header ∧
        Segment.encode data.claims = .ok claims ∧
        data.signingInput = .ok (header ++ "." ++ claims) ∧
        holder.sign (Utf8.encode (header ++ "." ++ claims)) = .ok signature ∧
        RawToken.Spells token ⟨(header ++ "." ++ claims : String), header, claims,
          Base64.Url.encode signature⟩ := by
  obtain ⟨input, signature, hinput, hsign, rfl⟩ := signWith_eq_ok_iff.mp h
  obtain ⟨header, claims, hheader, hclaims, rfl⟩ := signingInput_eq_ok_iff.mp hinput
  have hheaderSymbols : ∀ char ∈ header.toList, Base64.isSymbol char = true :=
    fun char hchar => Segment.isSymbol_of_mem_encode hheader hchar
  have hclaimsSymbols : ∀ char ∈ claims.toList, Base64.isSymbol char = true :=
    fun char hchar => Segment.isSymbol_of_mem_encode hclaims hchar
  constructor
  · intro char hchar
    have hdot : ".".toList = ['.'] := rfl
    simp only [String.toList_append, hdot, List.mem_append, List.mem_singleton] at hchar
    obtain (((hchar | hchar) | hchar) | hchar) | hchar := hchar
    · exact .inr (hheaderSymbols char hchar)
    · exact .inl hchar
    · exact .inr (hclaimsSymbols char hchar)
    · exact .inl hchar
    · exact .inr (Base64.Url.isSymbol_of_mem_encode hchar)
  · refine ⟨header, claims, signature, hheader, hclaims, hinput, hsign, ?_, ?_,
      dot_notMem_of_isSymbol hheaderSymbols, dot_notMem_of_isSymbol hclaimsSymbols,
      Base64.Url.dot_notMem_text signature⟩
    · rw [Text.ofString_append, Text.ofString_append (header ++ "." ++ claims)]
    · rw [Text.ofString_append, Text.ofString_append]

/-- A token is issued only under a header that can be written. -/
theorem writable_of_signWith (h : data.signWith holder = .ok token) : data.header.Writable := by
  obtain ⟨-, header, -, -, hheader, -⟩ := exists_segments_of_signWith h
  by_contra hunwritable
  rw [Header.encode_of_not_writable hunwritable] at hheader
  cases hheader

/-- An issued token is read back with the header and the segments that it was made of. -/
theorem exists_read_of_signWith {registry : Registry}
    (henabled : ∀ algorithm, data.header.algorithm = some algorithm →
      registry.enabled algorithm = true)
    (h : data.signWith holder = .ok token) :
    ∃ raw, (RawToken.decode registry (.text token)).outcome = .ok raw ∧
      raw.header = data.header ∧
      (∃ input : String, data.signingInput = .ok input ∧ raw.headerAndPayload = input) ∧
      (∃ claims : String, Segment.encode data.claims = .ok claims ∧ raw.payload = claims) ∧
      ∃ message, raw.message? = some message ∧ holder.sign message = .ok raw.signature := by
  obtain ⟨-, header, claims, signature, hheader, hclaims, hinput, hsign, hspells⟩ :=
    exists_segments_of_signWith h
  obtain ⟨segment, hencode, hdecode⟩ := Header.decode_encode (writable_of_signWith h) henabled
  obtain rfl : segment = header := Except.ok.inj (hencode.symm.trans hheader)
  refine ⟨⟨(segment ++ "." ++ claims : String), data.header, claims, signature⟩, ?_, rfl,
    ⟨_, hinput, rfl⟩, ⟨claims, hclaims, rfl⟩, _, Text.utf8?_ofString _, hsign⟩
  rw [RawToken.outcome_decode_eq_ok_iff, hspells.read_eq_ok_iff]
  exact ⟨hdecode, rfl, rfl, rfl⟩

/-- A prime: the order of five modulo it is as large as it can be. -/
private def wide : Nat := 3 * 2 ^ 534 + 1

end TokenData

end SignedToken
