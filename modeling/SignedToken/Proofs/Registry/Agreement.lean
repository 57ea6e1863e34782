import SignedToken.Header.Wire
import SignedToken.Proofs.Header.Shape
import SignedToken.Proofs.Keyholder.Acceptance
import SignedToken.Proofs.Registry.Listing
import SignedToken.Proofs.Registry.Making

/-!
# One answer about every algorithm

The list of enabled algorithms, the recognition of names, the reading of headers
and the making of backends ask about algorithms one by one.  All of them come to
the same answer, which is what the installation and the settings say.
-/

namespace SignedToken

namespace Backend

variable {kind : BackendKind} {material : Material} {backend : Backend}

/-- Material that makes a backend under some registry makes it under each that has the algorithm
enabled. -/
theorem make_of_make {other : Registry} (h : make other kind material = .ok backend)
    (registry : Registry) :
    make registry kind material =
      if registry.enabled kind.algorithm then .ok backend
      else .error (.disabled kind.algorithm) := by
  obtain ⟨-, hbind⟩ := make_eq_ok_iff.mp h
  rw [make_eq, hbind]

theorem ofFile_of_ofFile {file : Value} {other : Registry}
    (h : ofFile other kind file = .ok backend) (registry : Registry) :
    ofFile registry kind file =
      if registry.enabled kind.algorithm then .ok backend
      else .error (.disabled kind.algorithm) := by
  obtain ⟨material, hread, hmake⟩ := ofFile_eq_ok_iff.mp h
  rw [ofFile, hread]
  exact make_of_make hmake registry

end Backend

namespace Header

variable {entries : List (Value × Value)} {shape : Shape}

/-- Once the shape of a header is right, only the name of its algorithm matters. -/
theorem Describes.ofValue_eq (h : Describes entries shape) (registry : Registry) :
    ofValue registry (.dict entries) = ofShape registry shape := by
  rw [ofValue, checkShape_dict_eq_ok_iff.mpr h]

theorem ofShape_declares_iff (registry : Registry) (shape : Shape) (declared : Declared) :
    (∃ header, ofShape registry shape = .ok header ∧ header.algorithm = declared) ↔
      registry.declared? shape.algorithm = some declared := by
  rw [ofShape]
  cases registry.declared? shape.algorithm <;> simp

end Header

namespace Registry

/-- An algorithm is enabled if the installation can do its arithmetic and no piece of the setting is
its name.  The list of enabled algorithms holds exactly these, in the order of the table; exactly
their names are recognized, and a name that is not is refused together with theirs; a header that is
well formed and declares a signature can be read exactly if the name is recognized; and a backend
that is made under some settings is made under these exactly if its algorithm is enabled. -/
theorem enabled_everywhere (registry : Registry) :
    (∀ algorithm, registry.enabled algorithm = true ↔
      (algorithm.family = .hmac ∨ registry.keyPairs = true) ∧
        ¬registry.settings.Lists algorithm.name) ∧
    (Algorithm.all.map Algorithm.name =
        ["HS256", "HS384", "HS512", "RS256", "RS384", "RS512", "ES256", "ES384", "ES512"] ∧
      registry.enabledAlgorithms.Sublist Algorithm.all ∧
      ∀ algorithm, algorithm ∈ registry.enabledAlgorithms ↔
        registry.enabled algorithm = true) ∧
    (∀ name algorithm, registry.recognize (.text name) = .ok algorithm ↔
      name = algorithm.name ∧ registry.enabled algorithm = true) ∧
    (∀ name, (∀ algorithm, registry.recognize (.text name) ≠ .ok algorithm) →
      registry.recognize (.text name) =
        .error (.unrecognized (.text name) (registry.enabledAlgorithms.map Algorithm.name))) ∧
    (∀ entries shape, Header.Describes entries shape → shape.algorithm ≠ "none" →
      (∀ declared,
        (∃ header, Header.ofValue registry (.dict entries) = .ok header ∧
          header.algorithm = declared) ↔
        ∃ algorithm, declared = some algorithm ∧
          registry.recognize (.text shape.algorithm) = .ok algorithm) ∧
      ∀ segment, Segment.decode .any segment = .ok (.dict entries) →
        Header.decode registry segment = Header.ofValue registry (.dict entries)) ∧
    (∀ other kind material backend, Backend.make other kind material = .ok backend →
      Backend.make registry kind material =
        if registry.enabled kind.algorithm then .ok backend
        else .error (.disabled kind.algorithm)) ∧
    (∀ other kind file backend, Backend.ofFile other kind file = .ok backend →
      Backend.ofFile registry kind file =
        if registry.enabled kind.algorithm then .ok backend
        else .error (.disabled kind.algorithm)) := by
  refine ⟨fun _ => enabled_iff, ⟨by decide, List.filter_sublist, fun _ =>
    mem_enabledAlgorithms_iff⟩, fun _ _ => recognize_text_eq_ok_iff, fun _ =>
    recognize_text_of_forall, ?_, ?_, ?_⟩
  · intro entries shape hdescribes hsigned
    refine ⟨fun declared => ?_, fun segment hsegment => ?_⟩
    · rw [hdescribes.ofValue_eq, Header.ofShape_declares_iff, declared?_eq_some_iff hsigned]
    · rw [Header.decode, hsegment]
  · exact fun other kind material backend hmake => Backend.make_of_make hmake registry
  · exact fun other kind file backend hfile => Backend.ofFile_of_ofFile hfile registry

/-- Settings that list two algorithms, one of them behind a blank, and two empty pieces. -/
private def listing : Registry := ⟨true, ⟨"RS256, HS256,,"⟩⟩

theorem enabled_everywhere_of_listed :
    listing.recognize (.text "HS256") =
        .error (.unrecognized (.text "HS256")
          ["HS384", "HS512", "RS384", "RS512", "ES256", "ES384", "ES512"]) ∧
      (∃ header, Header.ofValue listing (.dict [(.text "alg", .text "HS384")]) = .ok header ∧
        header.algorithm = some ⟨.hmac, .sha384⟩) ∧
      Backend.make listing ⟨⟨.hmac, .sha256⟩, false⟩ (.value (.text "k")) =
        .error (.disabled ⟨.hmac, .sha256⟩) := by
  obtain ⟨-, -, hrecognizes, hrefuses, hreads, hmakes, -⟩ := enabled_everywhere listing
  have hdisabled : listing.enabled ⟨.hmac, .sha256⟩ = false := rfl
  have hnames : listing.enabledAlgorithms.map Algorithm.name =
      ["HS384", "HS512", "RS384", "RS512", "ES256", "ES384", "ES512"] := rfl
  refine ⟨?_, ?_, ?_⟩
  · rw [hrefuses, hnames]
    intro algorithm hrecognized
    obtain ⟨hname, henabled⟩ := (hrecognizes "HS256" algorithm).mp hrecognized
    have hsame : algorithm = ⟨.hmac, .sha256⟩ :=
      Algorithm.name_injective (Text.ofString_inj.mp hname.symm)
    rw [hsame, hdisabled] at henabled
    cases henabled
  · have hdescribes : Header.Describes [(.text "alg", .text "HS384")] ⟨"HS384", none, none, none⟩ :=
      ⟨rfl, .missing, .missing, .missing⟩
    have hrecognized : listing.recognize (.text "HS384") = .ok ⟨.hmac, .sha384⟩ :=
      (hrecognizes _ _).mpr ⟨rfl, rfl⟩
    exact ((hreads _ _ hdescribes (by decide)).1 _).mpr ⟨_, rfl, hrecognized⟩
  · have hmade : (Backend.make ⟨true, ⟨""⟩⟩ ⟨⟨.hmac, .sha256⟩, false⟩
        (.value (.text "k"))).toOption.any (fun _ => true) = true := rfl
    obtain ⟨backend, hbackend, -⟩ := exists_ok_of_any hmade
    rw [hmakes _ _ _ _ hbackend, if_neg (by simp [hdisabled])]

end Registry

end SignedToken
