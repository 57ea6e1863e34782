import SignedToken.Proofs.Keyholder.Width
import SignedToken.Proofs.Token.Passage

/-!
# What goes wrong in signing

A key that signs has a signature for every message, unless it is an RSA key
whose modulus is too short for the digest: such a key has none for any message.
The length of a modulus is looked at nowhere else, so a key holder is made around
a short key as around any other, and it is the issuing of a token that fails.
Fresh keys are long enough for every digest.
-/

namespace SignedToken

/-! ## Short moduli -/

namespace Rsa

/-- The name of a digest function, with the tags, takes as many bytes for each of them. -/
theorem length_digestInfo (digest : Digest) (message : Bytes) :
    (digestInfo digest message).length = digest.size + 19 := by
  cases digest <;>
    simp [digestInfo, digestIdentifier, Der.sequence, Der.identifier, Der.null, Der.octets,
      Der.encode, Der.encodeAll, Der.encodeElement, Der.encodeLength, Digest.size, Digest.bits]

/-- A modulus is short if it has no more bytes than the digest with its name and the padding, less
the zero that the padding starts with. -/
def IsShort (digest : Digest) (modulus : Nat) : Prop :=
  modulus < 256 ^ (digest.size + 29)

/-- Whether a key from two primes can sign depends on no message. -/
theorem sign?_eq_none_iff {key : PrivateKey} {digest : Digest} (message : Bytes) :
    sign? key digest message = none ↔ IsShort digest key.parts.modulus := by
  have hsize : key.publicKey.size < (digestInfo digest message).length + leastPadding ↔
      IsShort digest key.parts.modulus := by
    rw [length_digestInfo, leastPadding, IsShort]
    calc key.publicKey.size < digest.size + 19 + 11
        ↔ key.publicKey.size ≤ digest.size + 29 := by omega
      _ ↔ key.parts.modulus < 256 ^ (digest.size + 29) := Bytes.bytesFor_bitLength_le_iff _ _
  rw [sign?, Option.map_eq_none_iff, padded?, ← hsize]
  simp

/-! ### Fresh keys -/

/-- The search goes up from its candidate. -/
theorem le_of_searchPrime {fuel candidate prime : Nat}
    (h : searchPrime fuel candidate = some prime) : candidate ≤ prime := by
  induction fuel generalizing candidate with
  | zero => cases h
  | succ fuel ih =>
      rw [searchPrime] at h
      split at h
      · exact (Option.some.inj h).le
      · have hlater : candidate + 2 ≤ prime := ih h
        omega

/-- The two highest bits are set in the number that the search starts from. -/
theorem le_startingPoint (seed : Bytes) (label : Byte) (bits : Nat) :
    3 * 2 ^ (bits - 2) ≤ startingPoint seed label bits := by
  have hunit : Power.ofTwo (bits - 2) = 2 ^ (bits - 2) := rfl
  rw [startingPoint, hunit]
  omega

theorem modulus_of_ofPrimes {first second : Nat} {parts : Parts}
    (h : Parts.ofPrimes? first second = some parts) : parts.modulus = first * second := by
  simp only [Parts.ofPrimes?, Option.bind_eq_bind, Option.bind_eq_some_iff] at h
  obtain ⟨secret, -, coefficient, -, hparts⟩ := h
  cases hparts
  rfl

theorem parts_of_make {parts : Parts} {key : PrivateKey} (h : PrivateKey.make? parts = some key) :
    key.parts = parts := by
  rw [PrivateKey.make?] at h
  split at h
  · cases h
    rfl
  · cases h

/-- The primes of a fresh key have no leading zeros in their shares of its bits. -/
theorem le_modulus_of_generate {bits : Nat} {seed : Bytes} {key : PrivateKey}
    (h : generate? bits seed = some key) : 1024 ≤ bits ∧ 2 ^ (bits - 4) ≤ key.parts.modulus := by
  rw [generate?] at h
  split at h
  · cases h
  · rename_i hbits
    simp only [leastBits, not_lt] at hbits
    simp only [Option.bind_eq_bind, Option.bind_eq_some_iff] at h
    obtain ⟨first, hfirst, second, hsecond, parts, hparts, hkey⟩ := h
    have hfirstLarge := (le_startingPoint _ _ _).trans (le_of_searchPrime hfirst)
    have hsecondLarge := (le_startingPoint _ _ _).trans (le_of_searchPrime hsecond)
    have hshares : bits - 4 = bits - bits / 2 - 2 + (bits / 2 - 2) := by omega
    refine ⟨hbits, ?_⟩
    calc 2 ^ (bits - 4)
        = 2 ^ (bits - bits / 2 - 2) * 2 ^ (bits / 2 - 2) := by rw [hshares, pow_add]
      _ ≤ first * second := Nat.mul_le_mul (by omega) (by omega)
      _ = key.parts.modulus := by rw [parts_of_make hkey, modulus_of_ofPrimes hparts]

/-- Fresh keys are long enough for every digest. -/
theorem not_isShort_of_generate {bits : Nat} {seed : Bytes} {key : PrivateKey}
    (h : generate? bits seed = some key) (digest : Digest) :
    ¬ IsShort digest key.parts.modulus := by
  obtain ⟨hbits, hmodulus⟩ := le_modulus_of_generate h
  have hwidth : digest.size ≤ 64 := by cases digest <;> decide
  rw [IsShort, not_lt]
  calc 256 ^ (digest.size + 29)
      = 2 ^ (8 * (digest.size + 29)) := Bytes.pow_256 _
    _ ≤ 2 ^ (bits - 4) := Nat.pow_le_pow_right (by decide) (by omega)
    _ ≤ key.parts.modulus := hmodulus

end Rsa

/-! ## Keys -/

namespace Backend

/-- Whether a key has no signature for any message because its modulus is too short. -/
def TooSmall : Backend → Prop
  | .rsaPrivate digest key => Rsa.IsShort digest key.parts.modulus
  | _ => False

variable {registry : Registry} {kind : BackendKind} {material : Material} {backend : Backend}

/-- The keys that are made for signing, from material or from a key file. -/
inductive MadeToSign (registry : Registry) : Backend → Prop where
  | ofMaterial (kind : BackendKind) (material : Material) (backend : Backend)
      (signs : kind.onlyVerifies = false) (made : make registry kind material = .ok backend) :
      MadeToSign registry backend
  | ofFile (kind : BackendKind) (file : Value) (backend : Backend)
      (signs : kind.onlyVerifies = false) (made : ofFile registry kind file = .ok backend) :
      MadeToSign registry backend

theorem canSign_of_make (hsigns : kind.onlyVerifies = false)
    (h : make registry kind material = .ok backend) : backend.canSign = true := by
  rw [canSign, kind_of_bind (make_eq_ok_iff.mp h).2, hsigns]
  rfl

theorem MadeToSign.canSign (h : backend.MadeToSign registry) : backend.canSign = true := by
  cases h with
  | ofMaterial kind material _ signs made => exact canSign_of_make signs made
  | ofFile kind file _ signs made =>
      obtain ⟨material, -, hmake⟩ := ofFile_eq_ok_iff.mp made
      exact canSign_of_make signs hmake

/-- A private RSA key is bound to an enabled algorithm without a look at its modulus. -/
theorem madeToSign_rsa {digest : Digest} (henabled : registry.enabled ⟨.rsa, digest⟩ = true)
    (key : Rsa.PrivateKey) : (Backend.rsaPrivate digest key).MadeToSign registry :=
  .ofMaterial ⟨⟨.rsa, digest⟩, false⟩ (.privateKey (.rsa key)) _ rfl
    (make_eq_ok_iff.mpr ⟨henabled, rfl⟩)

/-- A fresh key has a signature for every message, whatever its algorithm. -/
theorem not_tooSmall_of_fresh {algorithm : Algorithm} {bits : Nat} {seed : Bytes}
    (hfresh : freshMaterial algorithm bits seed = .ok material)
    (hmade : make registry ⟨algorithm, false⟩ material = .ok backend) : ¬ backend.TooSmall := by
  obtain ⟨-, hbind⟩ := make_eq_ok_iff.mp hmade
  have hkind := kind_of_bind hbind
  cases backend with
  | rsaPrivate digest key =>
      -- Of fresh material only a generated key is bound to such a backend.
      obtain rfl : algorithm = ⟨.rsa, digest⟩ := congrArg BackendKind.algorithm hkind.symm
      simp only [freshMaterial] at hfresh
      cases hgenerate : Rsa.generate? bits seed with
      | none =>
          rw [hgenerate] at hfresh
          cases hfresh
      | some fresh =>
          rw [hgenerate] at hfresh
          cases hfresh
          cases hbind
          exact Rsa.not_isShort_of_generate hgenerate digest
  | secret digest key => exact id
  | rsaPublic digest key => exact id
  | curvePrivate digest key fits => exact id
  | curvePublic digest key fits => exact id

/-- A key that signs at all fails only because it is too small. -/
theorem sign_eq_error_iff (hsigns : backend.canSign = true) (message : Bytes) {failure : Failure} :
    backend.sign message = .error failure ↔ failure = .keyTooSmall ∧ backend.TooSmall := by
  cases backend with
  | secret digest key => simp [sign, TooSmall]
  | rsaPrivate digest key =>
      rw [sign, TooSmall, ← Rsa.sign?_eq_none_iff message]
      cases Rsa.sign? key digest message <;> simp [eq_comm]
  | rsaPublic digest key => cases hsigns
  | curvePrivate digest key fits => simp [sign, TooSmall]
  | curvePublic digest key fits => cases hsigns

end Backend

/-! ## Tokens -/

namespace TokenData

variable {data : TokenData} {holder : Keyholder} {backend : Backend} {failure : Failure}

/-- Whether the header and the claims can be written. -/
def Writable (data : TokenData) : Prop := data.header.Writable ∧ data.claims.toJson? ≠ none

/-- There is nothing to sign exactly if the data cannot be written. -/
theorem signingInput_eq_error_iff :
    data.signingInput = .error failure ↔ failure = .unwritable ∧ ¬data.Writable := by
  by_cases hheader : data.header.Writable
  · obtain ⟨header, hencode, -⟩ := Segment.decode_encode (hheader.portable_toValue 198)
    have hwritten : data.header.encode = .ok header := hencode
    rw [signingInput, hwritten, Segment.encode, Writable]
    cases data.claims.toJson? <;>
      simp [hheader, bind, Except.bind, pure, Except.pure, eq_comm]
  · rw [signingInput, Header.encode_of_not_writable hheader, Writable]
    simp [hheader, bind, Except.bind, eq_comm]

theorem signWith_eq_error_iff (hinner : holder.innermost = .key backend)
    (hsigns : backend.canSign = true) :
    data.signWith holder = .error failure ↔
      failure = .unwritable ∧ ¬data.Writable ∨
        failure = .keyTooSmall ∧ backend.TooSmall ∧ data.Writable := by
  -- The text is written before the key is asked, so a short key hides behind unwritable claims.
  cases hinput : data.signingInput with
  | error unwritten =>
      obtain ⟨rfl, hclaims⟩ := signingInput_eq_error_iff.mp hinput
      simp [signWith, hinput, hclaims, bind, Except.bind, eq_comm]
  | ok input =>
      have hclaims : data.Writable := by
        by_contra hnone
        rw [signingInput_eq_error_iff.mpr ⟨rfl, hnone⟩] at hinput
        cases hinput
      have hsigned : data.signWith holder = .error failure ↔
          backend.sign (Utf8.encode input) = .error failure := by
        rw [signWith, hinput, ← Keyholder.sign_eq hinner]
        cases hsign : holder.sign (Utf8.encode input) <;>
          simp [bind, Except.bind, pure, Except.pure, hsign]
      rw [hsigned, Backend.sign_eq_error_iff hsigns]
      simp [hclaims]

/-- A key that is made for signing issues a token of any claims inside any wrappers, unless the
header or the claims cannot be written or the key is an RSA key with a short modulus.  A short key
is never a fresh one, but it is made for signing like any other, and what signing with it fails with
lies outside the tree of errors. -/
theorem signing_fails_only {registry : Registry} {backend : Backend} {holder : Keyholder}
    (hmade : backend.MadeToSign registry) (hinner : holder.innermost = .key backend)
    (data : TokenData) :
    (∀ failure, data.signWith holder = .error failure ↔
      failure = .unwritable ∧ ¬data.Writable ∨
        failure = .keyTooSmall ∧ backend.TooSmall ∧ data.Writable) ∧
    Failure.unwritable.kind = .encodeError ∧
    Failure.keyTooSmall.kind.isCaseOf .jwsError = false ∧
    (∀ digest key, registry.enabled ⟨.rsa, digest⟩ = true →
      (Backend.rsaPrivate digest key).MadeToSign registry) ∧
    ∀ algorithm bits seed material fresh, Backend.freshMaterial algorithm bits seed = .ok material →
      Backend.make registry ⟨algorithm, false⟩ material = .ok fresh → ¬ fresh.TooSmall := by
  refine ⟨fun failure => signWith_eq_error_iff hinner hmade.canSign, rfl, by decide, ?_, ?_⟩
  · intro digest key henabled
    exact Backend.madeToSign_rsa henabled key
  · intro algorithm bits seed material fresh hfresh hmake
    exact Backend.not_tooSmall_of_fresh hfresh hmake

/-- The key of the primes 89 and 97. -/
private def tinyKey : Rsa.PrivateKey where
  parts := ⟨8633, 5, 845, 89, 97, 53, 77, 78⟩
  sound := rfl

private def tinyHolder : Keyholder := .withKeyId "a" (.key (.rsaPrivate .sha512 tinyKey)) false

private def everyAlgorithm : Registry := ⟨true, ⟨""⟩⟩

private theorem madeToSign_tinyKey :
    (Backend.rsaPrivate .sha512 tinyKey).MadeToSign everyAlgorithm :=
  Backend.madeToSign_rsa (by decide) tinyKey

private theorem tooSmall_tinyKey : (Backend.rsaPrivate .sha512 tinyKey).TooSmall := by
  show 8633 < 256 ^ (64 + 29)
  norm_num

private def emptyData : TokenData := ⟨Header.ofAlgorithm (some ⟨.rsa, .sha512⟩), .dict []⟩

private def foreignData : TokenData := ⟨Header.ofAlgorithm (some ⟨.rsa, .sha512⟩), .foreign⟩

private theorem writable_emptyData : emptyData.Writable := by
  have hclaims : emptyData.claims.toJson? ≠ none := by decide
  refine ⟨fun text htext => ?_, hclaims⟩
  have hnil : text ∈ ([] : List Text) := htext
  cases hnil

private theorem not_writable_foreignData : ¬foreignData.Writable := fun h =>
  have hclaims : foreignData.claims.toJson? = none := rfl
  h.2 hclaims

/-- Empty claims can be written, but a key of two small primes does not sign them. -/
theorem signing_fails_only_of_tiny :
    (Backend.rsaPrivate .sha512 tinyKey).MadeToSign everyAlgorithm ∧
      tinyHolder.innermost = .key (.rsaPrivate .sha512 tinyKey) ∧
      emptyData.Writable ∧
      emptyData.signWith tinyHolder = .error .keyTooSmall ∧
      foreignData.signWith tinyHolder = .error .unwritable := by
  have hinner : tinyHolder.innermost = .key (.rsaPrivate .sha512 tinyKey) := rfl
  obtain ⟨hempty, -⟩ := signing_fails_only madeToSign_tinyKey hinner emptyData
  obtain ⟨hforeign, -⟩ := signing_fails_only madeToSign_tinyKey hinner foreignData
  exact ⟨madeToSign_tinyKey, hinner, writable_emptyData,
    (hempty _).mpr (.inr ⟨rfl, tooSmall_tinyKey, writable_emptyData⟩),
    (hforeign _).mpr (.inl ⟨rfl, not_writable_foreignData⟩)⟩

/-- With a key that is made for signing, issuing a token that can be written fails, and with an
error that is none of this library's. -/
theorem not_only_unwritable_fails :
    (Backend.rsaPrivate .sha512 tinyKey).MadeToSign everyAlgorithm ∧
      tinyHolder.innermost = .key (.rsaPrivate .sha512 tinyKey) ∧
      emptyData.Writable ∧
      ∃ failure, emptyData.signWith tinyHolder = .error failure ∧
        failure.kind.isCaseOf .jwsError = false := by
  have hfails : emptyData.signWith tinyHolder = .error .keyTooSmall :=
    (signWith_eq_error_iff rfl madeToSign_tinyKey.canSign).mpr
      (.inr ⟨rfl, tooSmall_tinyKey, writable_emptyData⟩)
  exact ⟨madeToSign_tinyKey, rfl, writable_emptyData, .keyTooSmall, hfails, by decide⟩

end TokenData

end SignedToken
