import Mathlib
import SignedToken.Backend

/-!
# Making backends

A backend is made from material that fits if its algorithm is enabled.  Whether it
is enabled is looked at first, whatever the material is.
-/

namespace SignedToken.Backend

variable {registry : Registry} {kind : BackendKind} {material : Material} {backend : Backend}

/-- A backend is of the kind that it was asked for, except that a secret has no public half. -/
theorem kind_of_bind (h : bind kind material = .ok backend) :
    backend.kind =
      ⟨kind.algorithm, kind.onlyVerifies && kind.algorithm.family.needsKeyPairs⟩ := by
  obtain ⟨⟨family, digest⟩, onlyVerifies⟩ := kind
  simp only [bind] at h
  split at h
  · rename_i value
    cases hsecret : Secret.ofValue value with
    | error failure =>
        rw [hsecret] at h
        cases h
    | ok key =>
        rw [hsecret] at h
        cases h
        simp [Backend.kind, Family.needsKeyPairs]
  · cases h
  · cases h
    rfl
  · cases h
    rfl
  · simp only [ofCurvePrivate] at h
    split_ifs at h
    · cases h
      rfl
    · cases h
  · simp only [ofCurvePublic] at h
    split_ifs at h
    · cases h
      rfl
    · cases h
  · cases h
  · cases h

theorem bind_curvePrivate {digest : Digest} {key : Curve.PrivateKey}
    (fits : key.publicKey.curve = Curve.ofDigest digest) :
    bind ⟨⟨.ecdsa, digest⟩, false⟩ (.privateKey (.curve key)) =
      .ok (.curvePrivate digest key fits) := by
  show (ofCurvePrivate digest key).mapError _ = _
  rw [ofCurvePrivate, dif_pos fits]
  rfl

theorem bind_curvePublic {digest : Digest} {key : Curve.PublicKey}
    (fits : key.curve = Curve.ofDigest digest) :
    bind ⟨⟨.ecdsa, digest⟩, true⟩ (.publicKey (.curve key)) =
      .ok (.curvePublic digest key fits) := by
  show (ofCurvePublic digest key).mapError _ = _
  rw [ofCurvePublic, dif_pos fits]
  rfl

/-- A backend implements the algorithm that it was asked for. -/
theorem algorithm_of_bind (h : bind kind material = .ok backend) :
    backend.algorithm = kind.algorithm := by
  rw [Backend.algorithm, kind_of_bind h]

/-- The registry decides before the material is looked at, and has no further say. -/
theorem make_eq (registry : Registry) (kind : BackendKind) (material : Material) :
    make registry kind material =
      if registry.enabled kind.algorithm then bind kind material
      else .error (.disabled kind.algorithm) := by
  rw [make, Registry.require]
  cases registry.enabled kind.algorithm with
  | false => rfl
  | true => rfl

theorem make_eq_ok_iff :
    make registry kind material = .ok backend ↔
      registry.enabled kind.algorithm = true ∧ bind kind material = .ok backend := by
  rw [make_eq]
  cases registry.enabled kind.algorithm <;> simp

/-- No backend is made for an algorithm that is not enabled. -/
theorem enabled_of_make (h : make registry kind material = .ok backend) :
    registry.enabled backend.algorithm = true := by
  obtain ⟨henabled, hbind⟩ := make_eq_ok_iff.mp h
  rwa [algorithm_of_bind hbind]

/-! ## Key files -/

variable {file : Value} {family : Family}

theorem FaultHandler.run_eq_ok_iff {α : Type} {handler : FaultHandler}
    {loaded : Except LoadFault α} {key : α} :
    handler.run family loaded = .ok key ↔ loaded = .ok key := by
  cases loaded with
  | ok other => rw [run, Except.ok.injEq, Except.ok.injEq]
  | error fault =>
      rw [run]
      split_ifs <;> simp

theorem readKey_eq_ok_iff {α : Type} {handler : FaultHandler}
    {load : Bytes → Except LoadFault α} {key : α} :
    readKey handler load family file = .ok key ↔
      ∃ bytes, fileBytes file = .ok bytes ∧ load bytes = .ok key := by
  rw [readKey]
  cases fileBytes file with
  | error failure => simp
  | ok bytes => simp [FaultHandler.run_eq_ok_iff]

theorem readPrivate_eq_ok_iff {key : Key.Private} :
    readPrivate family file = .ok key ↔
      ∃ bytes, fileBytes file = .ok bytes ∧ Key.privateOfPem? bytes = some key := by
  rw [readPrivate, readKey_eq_ok_iff]
  refine exists_congr fun bytes => and_congr_right fun _ => ?_
  rw [Key.loadPrivate]
  cases Key.privateOfPem? bytes <;> simp

theorem readPublic_eq_ok_iff {key : Key.Public} :
    readPublic family file = .ok key ↔
      ∃ bytes, fileBytes file = .ok bytes ∧ Key.publicOfPem? bytes = some key := by
  rw [readPublic, readKey_eq_ok_iff]
  refine exists_congr fun bytes => and_congr_right fun _ => ?_
  rw [Key.loadPublic]
  cases Key.publicOfPem? bytes <;> simp

theorem ofFile_eq_ok_iff :
    ofFile registry kind file = .ok backend ↔
      ∃ material, readMaterial kind file = .ok material ∧
        make registry kind material = .ok backend := by
  rw [ofFile]
  cases readMaterial kind file <;> simp

end SignedToken.Backend
