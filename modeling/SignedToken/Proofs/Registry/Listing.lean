import SignedToken.Proofs.Text.Piece
import SignedToken.Recognition

/-!
# Algorithms that the settings list

An algorithm is switched off by a piece of the setting that is its name up to the
blanks around it.  Names are looked up exactly, so a name leads to at most one
algorithm, and only to an enabled one.
-/

namespace SignedToken

namespace Settings

/-- Whether a name is what some piece between the commas of the setting holds. -/
def Lists (settings : Settings) (name : Text) : Prop :=
  ∃ piece, Search.IsPiece (· == .char ',') piece settings.disabledAlgorithms.toList ∧
    Blank.StripsTo Blank.isBlankPoint piece name.toList

theorem mem_disabledNames_iff {settings : Settings} {name : Text} :
    name ∈ settings.disabledNames ↔ name ≠ "" ∧ settings.Lists name := by
  simp only [disabledNames, Lists, List.mem_map, List.mem_filter, Search.mem_splitAt_iff,
    ← Blank.trim_eq_iff]
  constructor
  · rintro ⟨_, ⟨⟨piece, hpiece, rfl⟩, hleft⟩, rfl⟩
    refine ⟨?_, piece, hpiece, rfl⟩
    rw [ne_eq, ← Text.toList_eq_nil_iff]
    simpa using hleft
  · rintro ⟨hname, piece, hpiece, htrim⟩
    refine ⟨name.toList, ⟨⟨piece, hpiece, htrim⟩, ?_⟩, rfl⟩
    rw [ne_eq, ← Text.toList_eq_nil_iff] at hname
    simpa using hname

end Settings

namespace Algorithm

theorem name_injective : Function.Injective name := by
  have hall : ∀ left ∈ all, ∀ right ∈ all, left.name = right.name → left = right := by decide
  exact fun left right => hall left left.mem_all right right.mem_all

theorem name_ne_empty (algorithm : Algorithm) : algorithm.name ≠ "" := by
  have hall : ∀ algorithm ∈ all, algorithm.name ≠ "" := by decide
  exact hall algorithm algorithm.mem_all

/-- The name under which unsigned tokens go is not that of an algorithm. -/
theorem name_ne_unsignedName (algorithm : Algorithm) :
    algorithm.name ≠ Declared.unsignedName := by
  have hall : ∀ algorithm ∈ all, algorithm.name ≠ Declared.unsignedName := by decide
  exact hall algorithm algorithm.mem_all

theorem ofName?_eq_some_iff {name : String} {algorithm : Algorithm} :
    ofName? name = some algorithm ↔ name = algorithm.name := by
  constructor
  · intro h
    have hname := List.find?_some h
    exact (eq_of_beq hname).symm
  · rintro rfl
    cases hfind : ofName? algorithm.name with
    | none =>
        have hnone := List.find?_eq_none.mp hfind algorithm algorithm.mem_all
        simp at hnone
    | some found =>
        have hname := List.find?_some hfind
        rw [name_injective (eq_of_beq hname)]

end Algorithm

namespace Registry

variable {registry : Registry} {name : Text} {algorithm : Algorithm}

/-- An algorithm is enabled if the installation can do it and its name is not listed. -/
theorem enabled_iff :
    registry.enabled algorithm = true ↔
      (algorithm.family = .hmac ∨ registry.keyPairs = true) ∧
        ¬registry.settings.Lists algorithm.name := by
  have havailable : registry.available algorithm.family = true ↔
      algorithm.family = .hmac ∨ registry.keyPairs = true := by
    cases hfamily : algorithm.family <;> simp [available, Family.needsKeyPairs]
  have hlisted : (algorithm.name : Text) ∈ registry.settings.disabledNames ↔
      registry.settings.Lists algorithm.name := by
    rw [Settings.mem_disabledNames_iff, ne_eq, Text.ofString_inj,
      and_iff_right algorithm.name_ne_empty]
  rw [enabled, Bool.and_eq_true, havailable, Bool.not_eq_true', List.contains_eq_mem,
    decide_eq_false_iff_not, hlisted]

theorem mem_enabledAlgorithms_iff :
    algorithm ∈ registry.enabledAlgorithms ↔ registry.enabled algorithm = true := by
  rw [enabledAlgorithms, List.mem_filter, and_iff_right algorithm.mem_all]

theorem find?_eq_some_iff :
    registry.find? name = some algorithm ↔
      name = algorithm.name ∧ registry.enabled algorithm = true := by
  rw [find?, Option.filter_eq_some_iff, Option.bind_eq_some_iff]
  simp only [Text.toString?_eq_some_iff, Algorithm.ofName?_eq_some_iff, exists_eq_right]

theorem recognize_text_eq_ok_iff :
    registry.recognize (.text name) = .ok algorithm ↔
      name = algorithm.name ∧ registry.enabled algorithm = true := by
  rw [← find?_eq_some_iff]
  cases hfound : registry.find? name <;> simp [recognize, hfound]

/-- A name that cannot be found is refused together with the names that could have been. -/
theorem recognize_text_of_forall
    (h : ∀ algorithm, registry.recognize (.text name) ≠ .ok algorithm) :
    registry.recognize (.text name) =
      .error (.unrecognized (.text name) registry.enabledNames) := by
  cases hrecognize : registry.recognize (.text name) with
  | ok algorithm => exact absurd hrecognize (h algorithm)
  | error failure =>
      have hfind : registry.find? name = none := by
        by_contra hfound
        obtain ⟨algorithm, hfound⟩ := Option.ne_none_iff_exists'.mp hfound
        exact h algorithm (recognize_text_eq_ok_iff.mpr (find?_eq_some_iff.mp hfound))
      rw [← hrecognize]
      simp only [recognize, hfind]
      rfl

/-- A name other than the one of unsigned tokens declares the algorithm that it is recognized
as. -/
theorem declared?_eq_some_iff (hname : name ≠ Declared.unsignedName) {declared : Declared} :
    registry.declared? name = some declared ↔
      ∃ algorithm, declared = some algorithm ∧
        registry.recognize (.text name) = .ok algorithm := by
  simp only [declared?, if_neg hname, Option.map_eq_some_iff, recognize_text_eq_ok_iff,
    find?_eq_some_iff]
  constructor
  · rintro ⟨algorithm, hfound, rfl⟩
    exact ⟨algorithm, rfl, hfound⟩
  · rintro ⟨algorithm, rfl, hfound⟩
    exact ⟨algorithm, hfound, rfl⟩

end Registry

end SignedToken
