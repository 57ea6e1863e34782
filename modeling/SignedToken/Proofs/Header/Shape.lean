import Mathlib
import SignedToken.Header.Wire

/-!
# The shape of a header

The checks of the members of a header accept exactly the dicts that describe one:
the name of an algorithm is there, and each of the other known members is a text
or a list of texts if it is there and not null.
-/

namespace SignedToken

namespace Checked

variable {α β γ : Type}

theorem within_eq_ok_iff {step : Step} {checked : Checked α} {result : α} :
    checked.within step = .ok result ↔ checked = .ok result := by
  cases checked <;> simp [within]

theorem both_eq_ok_iff {combine : α → β → γ} {first : Checked α} {second : Checked β}
    {result : γ} :
    both combine first second = .ok result ↔
      ∃ left right, first = .ok left ∧ second = .ok right ∧ combine left right = result := by
  cases first <;> cases second <;> simp [both]

theorem map_eq_ok_iff {change : α → β} {checked : Checked α} {result : β} :
    checked.map change = .ok result ↔ ∃ inner, checked = .ok inner ∧ change inner = result := by
  cases checked <;> simp [Except.map]

end Checked

namespace Header

/-- What a member says that may be left out or be null. -/
inductive Says {α : Type} (toValue : α → Value) : Option Value → Option α → Prop where
  | missing : Says toValue none none
  | null : Says toValue (some .null) none
  | set (content : α) : Says toValue (some (toValue content)) (some content)

theorem Says.ofOption {α : Type} (toValue : α → Value) (content : Option α) :
    Says toValue (content.map toValue) content := by
  cases content with
  | none => exact .missing
  | some content => exact .set content

/-- Texts as a list. -/
def textList (names : List Text) : Value := .list (names.map .text)

/-- The entries of a dict that describes a header of this shape, whatever else it holds. -/
structure Describes (entries : List (Value × Value)) (shape : Shape) : Prop where
  algorithm : member? "alg" entries = some (.text shape.algorithm)
  keyId : Says .text (member? "kid" entries) shape.keyId
  mediaType : Says .text (member? "typ" entries) shape.mediaType
  critical : Says textList (member? "crit" entries) shape.critical

theorem checkText_eq_ok_iff {value : Value} {content : Text} :
    checkText value = .ok content ↔ value = .text content := by
  cases value <;> simp [checkText, Checked.fail]

theorem checkName_eq_ok_iff {found : Option Value} {name : Text} :
    checkName found = .ok name ↔ found = some (.text name) := by
  cases found with
  | none => simp [checkName, Checked.fail]
  | some value => simp [checkName, checkText_eq_ok_iff]

theorem checkOptionalText_eq_ok_iff {found : Option Value} {content : Option Text} :
    checkOptionalText found = .ok content ↔ Says .text found content := by
  constructor
  · intro h
    unfold checkOptionalText at h
    split at h
    · cases h
      exact .missing
    · cases h
      exact .null
    · obtain ⟨text, htext, rfl⟩ := Checked.map_eq_ok_iff.mp h
      rw [checkText_eq_ok_iff.mp htext]
      exact .set text
  · rintro (_ | _ | content)
    · rfl
    · rfl
    · rfl

/-- The index tells only where an issue is. -/
theorem checkTexts_eq_ok_iff {items : List Value} {names : List Text} (index : Nat) :
    checkTexts index items = .ok names ↔ items = names.map .text := by
  induction items generalizing index names with
  | nil => cases names <;> simp [checkTexts]
  | cons item rest ih =>
      simp only [checkTexts, Checked.both_eq_ok_iff, Checked.within_eq_ok_iff,
        checkText_eq_ok_iff, ih]
      constructor
      · rintro ⟨name, others, rfl, rfl, rfl⟩
        rfl
      · intro h
        cases names with
        | nil => cases h
        | cons name others =>
            obtain ⟨rfl, rfl⟩ := List.cons.inj h
            exact ⟨name, others, rfl, rfl, rfl⟩

theorem checkOptionalTexts_eq_ok_iff {found : Option Value} {names : Option (List Text)} :
    checkOptionalTexts found = .ok names ↔ Says textList found names := by
  constructor
  · intro h
    unfold checkOptionalTexts at h
    split at h
    · cases h
      exact .missing
    · cases h
      exact .null
    · obtain ⟨texts, htexts, rfl⟩ := Checked.map_eq_ok_iff.mp h
      rw [(checkTexts_eq_ok_iff 0).mp htexts]
      exact .set texts
    · cases h
    · cases h
  · rintro (_ | _ | names)
    · rfl
    · rfl
    · rw [textList, checkOptionalTexts, (checkTexts_eq_ok_iff 0).mpr rfl]
      rfl

/-- The dicts of a shape are those whose entries describe it. -/
theorem checkShape_dict_eq_ok_iff {entries : List (Value × Value)} {shape : Shape} :
    checkShape (.dict entries) = .ok shape ↔ Describes entries shape := by
  simp only [checkShape, Checked.both_eq_ok_iff, Checked.within_eq_ok_iff, checkName_eq_ok_iff,
    checkOptionalText_eq_ok_iff, checkOptionalTexts_eq_ok_iff]
  constructor
  · rintro ⟨_, _, ⟨name, keyId, hname, hkeyId, rfl⟩, ⟨mediaType, critical, htype, hcritical, rfl⟩,
      rfl⟩
    exact ⟨hname, hkeyId, htype, hcritical⟩
  · rintro ⟨hname, hkeyId, htype, hcritical⟩
    exact ⟨_, _, ⟨_, _, hname, hkeyId, rfl⟩, ⟨_, _, htype, hcritical, rfl⟩, rfl⟩

/-- Only a dict has the shape of a header. -/
theorem checkShape_eq_ok_iff {value : Value} {shape : Shape} :
    checkShape value = .ok shape ↔ ∃ entries, value = .dict entries ∧ Describes entries shape := by
  cases value with
  | dict entries => simp [checkShape_dict_eq_ok_iff]
  | _ => simp [checkShape, Checked.fail]

end Header

end SignedToken
