import SignedToken.Proofs.Token.Format
import SignedToken.Proofs.Token.Resolution

/-!
# The width of signatures

Each key fixes the number of bytes of its signatures: the size of a digest, the
size of a modulus, or two coordinates that both lie in the group of the curve.
A key inside wrappers answers every byte string with a verdict and accepts none
of another width, so a token without a signature is accepted by no key.
-/

namespace SignedToken

/-! ## Digests -/

namespace Sha2

theorem length_run {width : Nat} (params : Params width) (initial : List (BitVec width))
    (message : Bytes) : (run params initial message).length = 8 * (width / 8) := by
  simp only [run, State.words, List.length_flatMap, Bytes.length_ofNat, List.map_cons,
    List.map_nil, List.sum_cons, List.sum_nil]
  omega

end Sha2

namespace Digest

/-- The state of the digest function is never shorter than the digest that is cut from it. -/
@[simp]
theorem length_hash (digest : Digest) (message : Bytes) :
    (digest.hash message).length = digest.size := by
  cases digest <;> simp [hash, Sha2.length_run, size, bits]

theorem size_pos (digest : Digest) : 0 < digest.size := by
  cases digest <;> decide

end Digest

@[simp]
theorem Hmac.length_mac (digest : Digest) (key message : Bytes) :
    (mac digest key message).length = digest.size :=
  digest.length_hash _

/-! ## Numbers -/

namespace Bytes

theorem bitLength_le_iff (number bits : Nat) : bitLength number ≤ bits ↔ number < 2 ^ bits := by
  by_cases hzero : number = 0
  · simp [bitLength, hzero]
  · rw [bitLength, if_neg hzero, Nat.succ_le_iff, Nat.log2_lt hzero]

theorem pow_256 (width : Nat) : 256 ^ width = 2 ^ (8 * width) := by
  rw [pow_mul]
  norm_num

/-- So many bytes hold a number exactly if they are not fewer than the bytes for its bits. -/
theorem bytesFor_bitLength_le_iff (number width : Nat) :
    bytesFor (bitLength number) ≤ width ↔ number < 256 ^ width := by
  have hbytes : bytesFor (bitLength number) ≤ width ↔ bitLength number ≤ 8 * width := by
    unfold bytesFor
    omega
  rw [hbytes, bitLength_le_iff, pow_256]

end Bytes

namespace Rsa

theorem PublicKey.isLeast_size (key : PublicKey) :
    IsLeast {width | key.modulus < 256 ^ width} key.size := by
  constructor
  · exact (Bytes.bytesFor_bitLength_le_iff _ _).mp le_rfl
  · intro width hwidth
    exact (Bytes.bytesFor_bitLength_le_iff _ _).mpr hwidth

/-- Signatures are as wide as the modulus, and no wider. -/
theorem isLeast_length_of_verify {key : PublicKey} {digest : Digest} {message signature : Bytes}
    (h : verify key digest message signature = true) :
    IsLeast {width | key.modulus < 256 ^ width} signature.length := by
  have hlength : signature.length = key.size := by
    unfold verify at h
    split at h
    · cases h
    · simp only [Bool.and_eq_true, beq_iff_eq] at h
      exact h.1.1.2
  rw [hlength]
  exact key.isLeast_size

end Rsa

/-! ## Pairs of numbers -/

namespace Curve

/-- Two numbers, each as wide as a coordinate and in the group of the curve. -/
structure IsPair (curve : Curve) (signature : Bytes) : Prop where
  length_eq : signature.length = 2 * curve.size
  first_pos : 0 < Bytes.toNat (signature.take curve.size)
  first_lt : Bytes.toNat (signature.take curve.size) < curve.params.order
  second_pos : 0 < Bytes.toNat (signature.drop curve.size)
  second_lt : Bytes.toNat (signature.drop curve.size) < curve.params.order

theorem inGroup_eq_true_iff {params : Params} {number : Nat} :
    inGroup params number = true ↔ 0 < number ∧ number < params.order := by
  simp [inGroup]

theorem inGroup_of_accepts {key : PublicKey} {number r s : Nat}
    (h : accepts key number r s = true) :
    inGroup key.curve.params r = true ∧ inGroup key.curve.params s = true := by
  by_cases hgroup : (inGroup key.curve.params r && inGroup key.curve.params s) = true
  · exact Bool.and_eq_true_iff.mp hgroup
  · simp only [accepts, if_neg hgroup] at h
    cases h

theorem isPair_of_verify {key : PublicKey} {curve : Curve} (fits : key.curve = curve)
    {digest : Digest} {message signature : Bytes}
    (h : verify key digest message signature = true) : curve.IsPair signature := by
  subst fits
  obtain ⟨hlength, haccepts⟩ := Bool.and_eq_true_iff.mp h
  obtain ⟨hfirst, hsecond⟩ := inGroup_of_accepts haccepts
  rw [inGroup_eq_true_iff] at hfirst hsecond
  exact ⟨beq_iff_eq.mp hlength, hfirst.1, hfirst.2, hsecond.1, hsecond.2⟩

end Curve

/-! ## Keys -/

namespace Backend

/-- Whether a byte string is as wide as the signatures of a key: one digest, as few bytes as hold
the modulus, or a pair of numbers on the curve of the digest. -/
def FullWidth (signature : Bytes) : Backend → Prop
  | .secret digest _ => signature.length = digest.size
  | .rsaPrivate _ key => IsLeast {width | key.parts.modulus < 256 ^ width} signature.length
  | .rsaPublic _ key => IsLeast {width | key.modulus < 256 ^ width} signature.length
  | .curvePrivate digest _ _ => (Curve.ofDigest digest).IsPair signature
  | .curvePublic digest _ _ => (Curve.ofDigest digest).IsPair signature

variable {backend : Backend} {message signature : Bytes}

/-- Keys accept nothing but signatures of full width. -/
theorem fullWidth_of_verify (h : backend.verify message signature = true) :
    backend.FullWidth signature := by
  cases backend with
  | secret digest key =>
      calc signature.length = (Hmac.mac digest key message).length := by rw [beq_iff_eq.mp h]
        _ = digest.size := Hmac.length_mac digest key message
  | rsaPrivate digest key => exact Rsa.isLeast_length_of_verify h
  | rsaPublic digest key => exact Rsa.isLeast_length_of_verify h
  | curvePrivate digest key fits => exact Curve.isPair_of_verify fits h
  | curvePublic digest key fits => exact Curve.isPair_of_verify fits h

/-- No bytes at all hold only zero, which is no modulus. -/
private theorem not_isLeast_zero {modulus exponent : Nat}
    (hsound : Rsa.publicSound modulus exponent = true) :
    ¬ IsLeast {width | modulus < 256 ^ width} 0 := by
  intro hleast
  have hzero : modulus < 1 := hleast.1
  have hpos : 0 < modulus := by
    simp only [Rsa.publicSound, Bool.and_eq_true, decide_eq_true_eq] at hsound
    exact hsound.1.1
  omega

/-- Every key has signatures of at least one byte. -/
theorem not_fullWidth_nil (backend : Backend) : ¬ backend.FullWidth [] := by
  intro h
  cases backend with
  | secret digest key => exact digest.size_pos.ne h
  | rsaPrivate digest key => exact not_isLeast_zero key.publicKey.sound h
  | rsaPublic digest key => exact not_isLeast_zero key.sound h
  | curvePrivate digest key fits => exact absurd h.first_pos (by simp [Bytes.toNat])
  | curvePublic digest key fits => exact absurd h.first_pos (by simp [Bytes.toNat])

end Backend

/-! ## Tokens -/

namespace RawToken

open Keyholder

variable {raw : RawToken}

/-- A token without a signature is accepted by no key, whatever its wrappers let pass.
-/
theorem verify_of_no_signature {verifier : Keyholder} {message : Bytes}
    (hmessage : raw.message? = some message) (hsignature : raw.signature = [])
    (hkey : HoldsKey verifier) : (raw.verify verifier).outcome = .ok false := by
  obtain ⟨backend, hinner⟩ := hkey
  obtain ⟨verdict, houtcome, hiff⟩ := verify_outcome hinner hmessage
  have hrejects : verdict ≠ true := by
    intro haccepts
    have hverified := (hiff.mp haccepts).2
    rw [hsignature] at hverified
    exact backend.not_fullWidth_nil (Backend.fullWidth_of_verify hverified)
  rw [houtcome, Bool.eq_false_of_not_eq_true hrejects]

theorem verifyAny_of_no_signature {verifiers : List Keyholder} (hsignature : raw.signature = [])
    (hkeys : ∀ verifier ∈ verifiers, HoldsKey verifier) :
    (raw.verifyAny verifiers).outcome = raw.headerAndPayload.encoded.map fun _ => false := by
  cases hmessage : raw.message? with
  | none =>
      rw [verifyAny_of_none hmessage, encoded_of_none hmessage]
      rfl
  | some message =>
      have hverdicts : ∀ verifier ∈ verifiers, (raw.verify verifier).outcome = .ok false :=
        fun verifier hverifier =>
          verify_of_no_signature hmessage hsignature (hkeys verifier hverifier)
      rw [verifyAny_outcome_of_verdicts hmessage hverdicts, encoded_of_message? hmessage]
      simp [Except.map]

/-- Nothing is spelled by the empty segment but the empty byte string. -/
theorem Spells.signature_eq_nil {registry : Registry} {text : Text} {segments : Segments}
    (h : Spells text segments) (hempty : segments.signature = ("" : String))
    (hread : read registry (.text text) = .ok raw) : raw.signature = [] := by
  obtain ⟨-, hsignature, -, -⟩ := h.read_eq_ok_iff.mp hread
  apply Base64.Url.encode_injective
  apply Text.ofString_injective
  rw [hsignature, hempty]
  rfl

/-- A key inside wrappers gives a verdict on every message and byte string, and accepts the byte
string only if it is as wide as the signatures of the key.  Hence no list of such keys accepts a
token with nothing after its last dot: each refuses it, or fails if there are no bytes of it. -/
theorem verified_full_width :
    (∀ (holder : Keyholder) (backend : Backend), holder.innermost = .key backend →
      ∀ message signature, ∃ verdict,
        (holder.checkSignature message signature).outcome = .ok verdict ∧
          (verdict = true → backend.FullWidth signature)) ∧
    Digest.all.map Digest.size = [32, 48, 64] ∧
    Digest.all.map (fun digest => 2 * (Curve.ofDigest digest).size) = [64, 96, 132] ∧
    ∀ verifiers : List Keyholder, (∀ verifier ∈ verifiers, HoldsKey verifier) →
      (∀ raw : RawToken, raw.signature = [] →
        (raw.verifyAny verifiers).outcome = raw.headerAndPayload.encoded.map fun _ => false) ∧
      ∀ registry text segments raw, Spells text segments → segments.signature = ("" : String) →
        (decode registry (.text text)).outcome = .ok raw →
          (raw.verifyAny verifiers).outcome =
            raw.headerAndPayload.encoded.map fun _ => false := by
  refine ⟨?_, by decide, by decide, ?_⟩
  · intro holder backend hinner message signature
    exact ⟨_, checkSignature_outcome hinner message signature, Backend.fullWidth_of_verify⟩
  · intro verifiers hkeys
    constructor
    · intro raw hsignature
      exact verifyAny_of_no_signature hsignature hkeys
    · intro registry text segments raw hspells hempty hdecode
      have hsignature : raw.signature = [] :=
        hspells.signature_eq_nil hempty (outcome_decode_eq_ok_iff.mp hdecode)
      exact verifyAny_of_no_signature hsignature hkeys

/-- A wrapper that lets tokens without a key id pass. -/
private def lenientSecret : Keyholder := .withKeyId "a" (.key (.secret .sha256 [107])) true

/-- The wrapper accepts the signature of an unsigned token, which is a whole digest, but not the
same token without its signature. -/
theorem verified_full_width_of_lenient :
    (∃ raw, (decode ⟨true, ⟨""⟩⟩ (.text
          "eyJhbGciOiJub25lIn0.MQ.rQCUKoaW786UYgdMIyltiS9RyorB4V8lH8iE1v-hrAM")).outcome = .ok raw ∧
        (∃ message, raw.message? = some message ∧
          (lenientSecret.checkSignature message raw.signature).outcome = .ok true) ∧
        raw.signature.length = 32) ∧
      ∃ raw, (decode ⟨true, ⟨""⟩⟩ (.text "eyJhbGciOiJub25lIn0.MQ.")).outcome = .ok raw ∧
        (raw.verifyAny [lenientSecret]).outcome = .ok false := by
  obtain ⟨hwidth, -, -, hrefused⟩ := verified_full_width
  constructor
  · have hdecodes : (decode ⟨true, ⟨""⟩⟩ (.text
        "eyJhbGciOiJub25lIn0.MQ.rQCUKoaW786UYgdMIyltiS9RyorB4V8lH8iE1v-hrAM")).outcome.toOption.any
          (fun raw => raw.message?.any
            ((Backend.secret .sha256 [107]).verify · raw.signature)) = true := by
      decide +kernel
    obtain ⟨raw, hread, hsigned⟩ := exists_ok_of_any hdecodes
    obtain ⟨message, hmessage, hverified⟩ := (Option.any_eq_true _ _).mp hsigned
    obtain ⟨verdict, houtcome, hfull⟩ :=
      hwidth lenientSecret (.secret .sha256 [107]) rfl message raw.signature
    have haccepts : (lenientSecret.checkSignature message raw.signature).outcome = .ok true :=
      (checkSignature_outcome rfl message raw.signature).trans (congrArg Except.ok hverified)
    have hverdict : verdict = true := Except.ok.inj (houtcome.symm.trans haccepts)
    exact ⟨raw, hread, ⟨message, hmessage, haccepts⟩, hfull hverdict⟩
  · have hdecodes : (decode ⟨true, ⟨""⟩⟩ (.text "eyJhbGciOiJub25lIn0.MQ.")).outcome.toOption.any
        (fun raw => raw.message?.isSome) = true := by
      decide +kernel
    obtain ⟨raw, hread, hbytes⟩ := exists_ok_of_any hdecodes
    obtain ⟨message, hmessage⟩ := Option.isSome_iff_exists.mp hbytes
    have hkeys : ∀ verifier ∈ [lenientSecret], HoldsKey verifier := by
      intro verifier hverifier
      rw [List.mem_singleton.mp hverifier]
      exact ⟨_, rfl⟩
    have hspells : Spells "eyJhbGciOiJub25lIn0.MQ."
        ⟨"eyJhbGciOiJub25lIn0.MQ", "eyJhbGciOiJub25lIn0", "MQ", ""⟩ :=
      ⟨by decide, by decide, by decide, by decide, by decide⟩
    refine ⟨raw, hread, ?_⟩
    rw [(hrefused _ hkeys).2 _ _ _ raw hspells rfl hread, encoded_of_message? hmessage]
    rfl

end RawToken

end SignedToken
