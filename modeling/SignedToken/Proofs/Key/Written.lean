import SignedToken.Key.Export
import SignedToken.Key.Import
import SignedToken.Proofs.Der.Written
import SignedToken.Proofs.Key.File

/-!
# Written keys are read back

A key that is written in the general form is read back as the same key, as long
as its tree is not too large to be read at all.  Of public keys from two primes
this holds only if the exponent is below the modulus, which the reader of public
keys asks for and the reader of private keys does not.
-/

namespace SignedToken

/-! ## Points and curves -/

namespace Curve

theorem prime_lt (curve : Curve) : curve.params.prime < 256 ^ curve.size := by
  cases curve <;> decide

theorem bytesFor_order (curve : Curve) :
    Bytes.bytesFor (Bytes.bitLength curve.params.order) = curve.size := by
  cases curve <;> decide +kernel

theorem order_lt (curve : Curve) : curve.params.order < 256 ^ curve.size := by
  rw [← bytesFor_order]
  exact (Bytes.bytesFor_bitLength_le_iff _ _).mp le_rfl

theorem isIdentifier_identifier (curve : Curve) :
    Der.isIdentifier curve.params.identifier = true := by
  cases curve <;> rfl

/-- No two curves have the same identifier. -/
theorem ofIdentifier?_identifier (curve : Curve) :
    ofIdentifier? curve.params.identifier = some curve := by
  cases curve <;> rfl

/-- A point is written by both coordinates, which are read back. -/
theorem decodePoint?_encodePoint {curve : Curve} {point : Point}
    (h : contains curve.params point = true) :
    decodePoint? curve (encodePoint curve point) = some point := by
  obtain ⟨x, y⟩ := point
  have hbounds : x < curve.params.prime ∧ y < curve.params.prime := by
    simp only [contains, Bool.and_eq_true, decide_eq_true_eq] at h
    exact h.1
  have hx : Bytes.toNat (Bytes.ofNat curve.size x) = x :=
    Bytes.toNat_ofNat (hbounds.1.trans (prime_lt curve))
  have hy : Bytes.toNat (Bytes.ofNat curve.size y) = y :=
    Bytes.toNat_ofNat (hbounds.2.trans (prime_lt curve))
  have htake : (Bytes.ofNat curve.size x ++ Bytes.ofNat curve.size y).take curve.size =
      Bytes.ofNat curve.size x := by
    rw [List.take_left' (Bytes.length_ofNat _ _)]
  have hdrop : (Bytes.ofNat curve.size x ++ Bytes.ofNat curve.size y).drop curve.size =
      Bytes.ofNat curve.size y := by
    rw [List.drop_left' (Bytes.length_ofNat _ _)]
  have hlength : (Bytes.ofNat curve.size x ++ Bytes.ofNat curve.size y).length =
      2 * curve.size := by
    rw [List.length_append, Bytes.length_ofNat, Bytes.length_ofNat, two_mul]
  rw [encodePoint, List.cons_append, decodePoint?]
  simp only [htake, hdrop, hx, hy, if_pos hlength, decide_true, Bool.true_or, if_true]
  rw [Option.filter_some, if_pos h]

theorem PublicKey.make?_self (key : PublicKey) : make? key.curve key.point = some key :=
  dif_pos key.onCurve

theorem PrivateKey.make?_self (key : PrivateKey) :
    make? key.publicKey.curve key.scalar key.publicKey.point = some key := by
  rw [make?, dif_pos key.publicKey.onCurve, dif_pos key.inRange, dif_pos key.matching]

end Curve

namespace Key

/-! ## Kinds -/

@[simp]
theorem shortTag_kindTree (identifier : Bytes) (parameter : Der) :
    (kindTree identifier parameter).ShortTag := Der.shortTag_sequence _

theorem withKind?_kindTree {α : Type} {identifier : Bytes} {parameter : Der}
    (hidentifier : Der.isIdentifier identifier = true)
    (hparameter : parameter.ShortTag) (h : (kindTree identifier parameter).Readable)
    (read : Bytes → List Der.Element → Option α) :
    withKind? (kindTree identifier parameter).element read =
      read identifier [parameter.element] := by
  have hparts : ∀ part ∈ [Der.identifier identifier, parameter], part.Readable :=
    h.of_parts (by simp [hparameter])
  rw [withKind?, kindTree, Der.parts?_sequence hparts]
  simp only [List.map_cons, List.map_nil, Option.bind_eq_bind, Option.bind_some,
    Der.identifier?_identifier hidentifier]

/-- A private key in the general form is read by the reader of its kind. -/
theorem generalPrivate?_encode {identifier : Bytes} {parameter content : Der}
    (hidentifier : Der.isIdentifier identifier = true)
    (hparameter : parameter.ShortTag)
    (h : (generalPrivateTree (kindTree identifier parameter) content).Readable) :
    generalPrivate? (generalPrivateTree (kindTree identifier parameter) content).encode =
      privateOfKind? identifier [parameter.element] content.encode := by
  have hparts : ∀ part ∈ [Der.integer 0, kindTree identifier parameter, .octets content.encode],
      part.Readable := h.of_parts (by simp)
  have hkind := hparts (kindTree identifier parameter) (by simp)
  rw [generalPrivate?, generalPrivateTree, Der.sequence?_encode h hparts]
  simp only [List.map_cons, List.map_nil, Option.bind_eq_bind, Option.bind_some,
    Der.natural?_integer, Der.octets?_octets, withKind?_kindTree hidentifier hparameter hkind,
    areAttributes, and_self, if_true]

/-- A public key in the general form is taken apart into its kind and its content. -/
theorem generalPublic?_encode {identifier content : Bytes} {parameter : Der}
    (hidentifier : Der.isIdentifier identifier = true)
    (hparameter : parameter.ShortTag)
    (h : (generalPublicTree (kindTree identifier parameter) content).Readable) :
    generalPublic? (generalPublicTree (kindTree identifier parameter) content).encode =
      publicOfKind? identifier [parameter.element] content := by
  have hparts : ∀ part ∈ [kindTree identifier parameter, .bits content], part.Readable :=
    h.of_parts (by simp)
  have hkind := hparts (kindTree identifier parameter) (by simp)
  rw [generalPublic?, generalPublicTree, Der.sequence?_encode h hparts]
  simp only [List.map_cons, List.map_nil, Option.bind_eq_bind, Option.bind_some, Der.bits?_bits,
    withKind?_kindTree hidentifier hparameter hkind]

/-! ## Keys from two primes -/

theorem rsaPrivate?_encode (key : Rsa.PrivateKey) (h : (rsaPrivateTree key.parts).Readable) :
    rsaPrivate? (rsaPrivateTree key.parts).encode = some key := by
  rw [rsaPrivate?, rsaPrivateTree, Der.naturals?_encode h]
  simp only [Option.bind_eq_bind, Option.bind_some, Rsa.PrivateKey.make?, key.sound, dif_pos]

theorem rsaPublic?_encode (key : Rsa.PublicKey) (h : (rsaPublicTree key).Readable) :
    rsaPublic? (rsaPublicTree key).encode =
      if key.exponent < key.modulus then some key else none := by
  have hnumbers : rsaPublicTree key = .sequence ([key.modulus, key.exponent].map .integer) := rfl
  rw [hnumbers] at h
  rw [rsaPublic?, hnumbers, Der.naturals?_encode h]
  simp only [Option.bind_eq_bind, Option.bind_some, Rsa.PublicKey.make?, key.sound, dif_pos]

/-! ## Keys on curves -/

theorem agreedCurve?_named (curve : Curve) :
    agreedCurve? (some (Der.identifier curve.params.identifier).element) none = some curve := by
  rw [agreedCurve?, curveOfDomain?,
    Der.identifier?_identifier (Curve.isIdentifier_identifier curve)]
  exact Curve.ofIdentifier?_identifier curve

theorem scalar?_ofNat {curve : Curve} {scalar : Nat} (h : scalar < curve.params.order) :
    scalar? curve (Bytes.ofNat curve.size scalar) = some scalar := by
  rw [scalar?, if_pos (by rw [Bytes.length_ofNat, Curve.bytesFor_order]),
    Bytes.toNat_ofNat (h.trans (Curve.order_lt curve))]

/-- An element with one number is not taken for one with another number. -/
theorem curveExtras?_point {point : Der} (h : (Der.context 1 point).Readable)
    (hpoint : point.ShortTag) :
    curveExtras? [(Der.context 1 point).element] = some (none, some point.element) := by
  have hother : (Der.context 1 point).element.context? 0 = none := rfl
  have hinside : (Der.context 1 point).element.context? 1 = some point.element :=
    Der.context?_context 1 (h.of_parts (by simp [hpoint]) point (List.mem_singleton_self _))
  rw [curveExtras?, hother, hinside]
  rfl

/-- The domain of a key stands in its kind, and the public point behind the scalar. -/
theorem curvePrivate?_encode (key : Curve.PrivateKey) (h : (curvePrivateTree key).Readable) :
    curvePrivate? (some (Der.identifier key.publicKey.curve.params.identifier).element)
      (curvePrivateTree key).encode = some key := by
  have hparts : ∀ part ∈ [Der.integer 1,
      .octets (Bytes.ofNat key.publicKey.curve.size key.scalar),
      .context 1 (.bits (Curve.encodePoint key.publicKey.curve key.publicKey.point))],
      part.Readable := h.of_parts (by simp)
  have hextras : curveExtras?
      [(Der.context 1
        (.bits (Curve.encodePoint key.publicKey.curve key.publicKey.point))).element] =
        some (none,
          some (Der.bits (Curve.encodePoint key.publicKey.curve key.publicKey.point)).element) := by
    apply curveExtras?_point
    · exact hparts _ (by simp)
    · simp
  rw [curvePrivate?, curvePrivateTree, Der.sequence?_encode h hparts]
  simp only [List.map_cons, List.map_nil, Option.bind_eq_bind, Option.bind_some, hextras,
    agreedCurve?_named, Der.octets?_octets, scalar?_ofNat key.inRange.2, Der.natural?_integer,
    ne_eq, not_true_eq_false, if_false, Der.bits?_bits,
    Curve.decodePoint?_encodePoint key.publicKey.onCurve, Curve.PrivateKey.make?_self]

/-! ## Files -/

theorem isLabel_privateLabel : Pem.IsLabel privateLabel where
  text := ⟨"PRIVATE KEY", (Utf8.encode_of_ascii (by decide)).symm⟩
  nonempty := by decide
  no_dash := by decide

theorem isLabel_publicLabel : Pem.IsLabel publicLabel where
  text := ⟨"PUBLIC KEY", (Utf8.encode_of_ascii (by decide)).symm⟩
  nonempty := by decide
  no_dash := by decide

theorem encode_ne_nil (tree : Der) : tree.encode ≠ [] := by
  rw [Der.encode_eq]
  exact List.cons_ne_nil _ _

/-- A file with a private key in the general form is read as that key. -/
theorem privateOfPem?_encode (tree : Der) :
    privateOfPem? (Pem.encode privateLabel tree.encode) = generalPrivate? tree.encode := by
  have hfound : [⟨privateLabel, [], tree.encode⟩].find?
      (fun block : Pem => privateLabels.contains block.label) =
        some ⟨privateLabel, [], tree.encode⟩ := rfl
  rw [privateOfPem?, Pem.decodeAll_encode isLabel_privateLabel (encode_ne_nil tree)]
  simp only [Option.bind_eq_bind, Option.bind_some, hfound, privateOfBlock?]
  rfl

theorem publicOfPem?_encode (tree : Der) :
    publicOfPem? (Pem.encode publicLabel tree.encode) = generalPublic? tree.encode := by
  rw [publicOfPem?, Pem.decode_encode isLabel_publicLabel (encode_ne_nil tree)]
  rfl

end Key

end SignedToken
