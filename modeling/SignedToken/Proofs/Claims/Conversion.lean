import SignedToken.Claims.Scalar
import SignedToken.Proofs.Json.Limits

/-!
# Integers that are taken from other scalars

An integer may be wanted where a document holds a truth value, a double or a text.
Whatever it is taken from, it has no more digits than an integer that the reader
lets through, so it can be written and read as an integer.
-/

namespace SignedToken.Scalar

/-- Whether an integer is short enough to be read. -/
def IsShort (value : Int) : Prop :=
  (Nat.toDigits 10 value.natAbs).length ≤ Json.Rules.segment.digits

/-- The digits of a numeral are counted before they are taken for a number. -/
theorem isShort_of_plainNumeral {chars : List Char} {value : Int}
    (h : plainNumeral chars = .number value) : IsShort value := by
  simp only [plainNumeral] at h
  generalize (if (chars.head? == some '-') = true then chars.drop 1 else chars) = unsigned at h
  split at h
  · cases h
  rename_i hmalformed
  split at h
  · cases h
  rename_i hlong
  split at h
  · cases h
  have hne : unsigned.takeWhile Char.isDigit ≠ [] := by
    intro hnil
    simp [hnil] at hmalformed
  have hdigits : ∀ char ∈ unsigned.takeWhile Char.isDigit, char.isDigit = true :=
    fun char hchar => List.mem_takeWhile_imp hchar
  have hvalue : value.natAbs = Nat.ofDigitChars 10 (unsigned.takeWhile Char.isDigit) 0 := by
    cases h
    by_cases hnegative : (chars.head? == some '-') = true <;> simp [hnegative]
  rw [IsShort, hvalue]
  exact le_trans (Json.length_toDigits_ofDigitChars_le hne hdigits) (not_lt.mp hlong)

theorem isShort_of_numeral {text : String} {value : Int} (h : numeral text = .number value) :
    IsShort value := by
  simp only [numeral] at h
  split at h
  · cases hsimple : simplify? (Blank.trim Blank.isWhiteSpace text.toList) with
    | none =>
        rw [hsimple] at h
        cases h
    | some chars =>
        rw [hsimple] at h
        exact isShort_of_plainNumeral h
  · exact isShort_of_plainNumeral h

/-- An integer that a text stands for is short enough to be read again. -/
theorem isShort_of_parseInt {text : String} {value : Int} (h : parseInt text = .ok value) :
    IsShort value := by
  rw [parseInt] at h
  split at h
  · rename_i found hnumeral
    cases h
    exact isShort_of_numeral hnumeral
  · cases h
  · cases h

/-- Integers of 64 bits have at most nineteen digits. -/
theorem isShort_of_isWithinWord {value : Int} (h : isWithinWord value = true) : IsShort value := by
  have hsize : value.natAbs < 10 ^ 19 := by
    have hbound : -wordBound < value ∧ value < wordBound := by simpa [isWithinWord] using h
    rw [wordBound] at hbound
    omega
  have hlength : (Nat.toDigits 10 value.natAbs).length ≤ 19 :=
    (Nat.length_toDigits_le_iff (by decide) (by decide)).mpr hsize
  exact le_trans hlength (by decide)

theorem isShort_of_intOfFloat {number : Binary64} {value : Int}
    (h : intOfFloat number = .ok value) : IsShort value := by
  cases number with
  | nan => cases h
  | infinite negative => cases h
  | finite negative mantissa exponent =>
      simp only [intOfFloat] at h
      split at h
      · cases h
      · split at h
        · rename_i hword
          cases h
          exact isShort_of_isWithinWord hword
        · cases h

/-- An integer that a document stands for is as short as an integer in a document. -/
theorem isShort_of_toInt {depth : Nat} {document : Json} {value : Int}
    (hbounded : Json.Bounded Json.Rules.segment depth document)
    (h : toInt document = .ok value) : IsShort value := by
  cases hbounded with
  | null depth => cases h
  | bool depth truth =>
      cases h
      cases truth <;> exact (by decide : 1 ≤ 4300)
  | int depth number hshort =>
      cases h
      exact hshort
  | float depth number => exact isShort_of_intOfFloat h
  | text depth content => exact isShort_of_parseInt h
  | emptyArray depth => cases h
  | array depth items nested => cases h
  | emptyObject depth => cases h
  | object depth members nested => cases h

end SignedToken.Scalar
