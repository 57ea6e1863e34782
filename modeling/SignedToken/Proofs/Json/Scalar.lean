import Mathlib
import SignedToken.Json.Reader
import SignedToken.Json.Writer
import SignedToken.Proofs.Text.Piece

/-!
# Reading back written texts and numbers

An escaped character is read as one piece, and the pieces that arise from
escaping are never surrogates, so they join to the text that was written.
Digits are read back as the number they were written for, because no written
number starts with a zero that another digit follows.
-/

namespace SignedToken

/-! ## Hexadecimal digits -/

namespace Hex

private theorem value?_digitChar {digit : Nat} (h : digit < 16) :
    value? (Nat.digitChar digit) = some digit := by
  revert digit
  decide

theorem four?_digits {number : Nat} (h : number < 65536) :
    ∃ a b c d, digits 4 number = [a, b, c, d] ∧ four? a b c d = some number := by
  refine ⟨_, _, _, _, rfl, ?_⟩
  simp only [four?, value?_digitChar (Nat.mod_lt _ (by decide : 0 < 16)),
    Option.bind_eq_bind, Option.bind_some, Option.some.injEq]
  omega

end Hex

namespace Json

/-! ## Text -/

/-- What a written character is read as: itself, or its number if that is below the space. -/
def StandsFor (char : Char) (piece : Piece) : Prop :=
  piece = .char char ∨ piece = .unit char.toNat ∧ char.toNat < 0x20

/-- The three ways in which a character is written. -/
private theorem escape_cases (char : Char) :
    (∃ letter, escape char = ['\\', letter] ∧ letter? letter = some char ∧ letter ≠ 'u') ∨
      (escape char = '\\' :: 'u' :: Hex.digits 4 char.toNat ∧ char.toNat < 0x20) ∨
      (escape char = [char] ∧ char ≠ '"' ∧ char ≠ '\\' ∧ ¬char.toNat < 0x20) := by
  have hnumber : ∀ number, char.toNat = number → char = Char.ofNat number := by
    rintro number rfl
    exact (Char.ofNat_toNat char).symm
  unfold escape
  split_ifs with hquote hslash hlow hn hr ht hb hf
  · exact .inl ⟨_, rfl, by rw [hquote]; rfl, by decide⟩
  · exact .inl ⟨_, rfl, by rw [hslash]; rfl, by decide⟩
  · exact .inl ⟨_, rfl, by rw [hn]; rfl, by decide⟩
  · exact .inl ⟨_, rfl, by rw [hr]; rfl, by decide⟩
  · exact .inl ⟨_, rfl, by rw [ht]; rfl, by decide⟩
  · exact .inl ⟨_, rfl, by rw [hnumber 8 hb]; rfl, by decide⟩
  · exact .inl ⟨_, rfl, by rw [hnumber 12 hf]; rfl, by decide⟩
  · exact .inr (.inl ⟨rfl, hlow⟩)
  · exact .inr (.inr ⟨rfl, hquote, hslash, hlow⟩)

/-- A written character is read as one piece, whatever follows it. -/
private theorem scanPieces_escape (char : Char) :
    ∃ piece, StandsFor char piece ∧ ∀ rest,
      scanPieces (escape char ++ rest) =
        (scanPieces rest).map fun (pieces, rest) => (piece :: pieces, rest) := by
  obtain ⟨letter, hescape, hletter, hunicode⟩ | ⟨hescape, hlow⟩ |
    ⟨hescape, hquote, hslash, hhigh⟩ := escape_cases char
  · refine ⟨.char char, .inl rfl, fun rest => ?_⟩
    rw [hescape, List.cons_append, List.cons_append, List.nil_append,
      scanPieces.eq_4 _ _ (fun _ _ _ _ _ hu => absurd hu hunicode), hletter]
    cases scanPieces rest <;> rfl
  · obtain ⟨a, b, c, d, hdigits, hnumber⟩ :=
      Hex.four?_digits (lt_trans hlow (by decide : 0x20 < 65536))
    refine ⟨.unit char.toNat, .inr ⟨rfl, hlow⟩, fun rest => ?_⟩
    rw [hescape, hdigits]
    simp only [List.cons_append, List.nil_append]
    rw [scanPieces.eq_3, hnumber]
    cases scanPieces rest <;> rfl
  · refine ⟨.char char, .inl rfl, fun rest => ?_⟩
    rw [hescape, List.cons_append, List.nil_append,
      scanPieces.eq_5 _ _ hquote (fun _ _ _ _ _ hc => absurd hc hslash)
        (fun _ _ hc => absurd hc hslash), if_neg hhigh]
    cases scanPieces rest <;> rfl

private theorem scanPieces_escaped (chars : List Char) :
    ∃ pieces, List.Forall₂ StandsFor chars pieces ∧ ∀ rest,
      scanPieces (chars.flatMap escape ++ '"' :: rest) = some (pieces, rest) := by
  induction chars with
  | nil => exact ⟨[], .nil, fun rest => by simp [scanPieces]⟩
  | cons char chars ih =>
      obtain ⟨piece, hpiece, hscan⟩ := scanPieces_escape char
      obtain ⟨pieces, hpieces, hscans⟩ := ih
      refine ⟨piece :: pieces, .cons hpiece hpieces, fun rest => ?_⟩
      rw [List.flatMap_cons, List.append_assoc, hscan, hscans]
      rfl

private theorem isHigh_of_low {number : Nat} (h : number < 0x20) :
    Surrogate.isHigh number = false := by
  simp only [Surrogate.isHigh, Bool.and_eq_false_iff, decide_eq_false_iff_not]
  omega

private theorem unitChar?_of_low {lone : Bool} {char : Char} (h : char.toNat < 0x20) :
    unitChar? lone char.toNat = some char := by
  have heither : Surrogate.isEither char.toNat = false := by
    simp only [Surrogate.isEither, isHigh_of_low h, Surrogate.isLow, Bool.false_or,
      Bool.and_eq_false_iff, decide_eq_false_iff_not]
    omega
  simp [unitChar?, Surrogate.toChar, heither]

/-- Pieces that stand for characters never pair up, so they join to these characters. -/
private theorem joinPieces_of_standsFor {lone : Bool} {chars : List Char} {pieces : List Piece}
    (h : List.Forall₂ StandsFor chars pieces) : joinPieces lone pieces = some chars := by
  induction h with
  | nil => rfl
  | @cons char piece chars pieces hpiece hpieces ih =>
      obtain rfl | ⟨rfl, hlow⟩ := hpiece
      · simp [joinPieces, ih]
      · cases hpieces with
        | nil => simp [joinPieces, unitChar?_of_low hlow]
        | @cons next second chars pieces hsecond hpieces =>
            obtain rfl | ⟨rfl, hnext⟩ := hsecond
            · rw [joinPieces.eq_4 _ _ _ (by simp), ih, unitChar?_of_low hlow]
              rfl
            · rw [joinPieces, ih, isHigh_of_low hlow, unitChar?_of_low hlow]
              rfl

/-- A written text is read up to its closing quote. -/
theorem scanText_escaped (rules : Rules) (text : String) (rest : List Char) :
    scanText rules (text.toList.flatMap escape ++ '"' :: rest) = some (text, rest) := by
  obtain ⟨pieces, hpieces, hscan⟩ := scanPieces_escaped text.toList
  simp [scanText, hscan, joinPieces_of_standsFor hpieces]

/-! ## Numbers -/

/-- What may follow a written value: the end, a comma or a closing bracket. -/
def Closes (rest : List Char) : Prop :=
  ∀ char ∈ rest.head?, char = ',' ∨ char = ']' ∨ char = '\x7d'

theorem closes_nil : Closes [] := by simp [Closes]

theorem Closes.isDigit_head {rest : List Char} (h : Closes rest) :
    ∀ char ∈ rest.head?, char.isDigit = false := by
  intro char hchar
  obtain rfl | rfl | rfl := h char hchar <;> decide

private theorem isDigit_toDigits (number : Nat) :
    ∀ char ∈ Nat.toDigits 10 number, char.isDigit = true := fun _ hchar =>
  Nat.isDigit_of_mem_toDigits (by decide) (by decide) hchar

private theorem exists_toDigits_eq_cons (number : Nat) :
    ∃ digit digits, Nat.toDigits 10 number = digit :: digits ∧ digit.isDigit = true := by
  obtain ⟨digit, digits, hdigits⟩ := List.exists_cons_of_ne_nil
    (Nat.toDigits_ne_nil (n := number) (b := 10))
  exact ⟨digit, digits, hdigits, isDigit_toDigits number digit (by simp [hdigits])⟩

theorem ne_of_isDigit {digit other : Char} (hdigit : digit.isDigit = true)
    (hother : other.isDigit = false) : digit ≠ other := by
  rintro rfl
  rw [hdigit] at hother
  cases hother

/-- A written integer starts with a digit, or with a minus and a digit. -/
theorem renderInt_cases (number : Int) :
    ∃ digit digits, digit.isDigit = true ∧
      (renderInt number = digit :: digits ∨ renderInt number = '-' :: digit :: digits) := by
  cases number with
  | ofNat size =>
      obtain ⟨digit, digits, hdigits, hdigit⟩ := exists_toDigits_eq_cons size
      exact ⟨digit, digits, hdigit, .inl hdigits⟩
  | negSucc size =>
      obtain ⟨digit, digits, hdigits, hdigit⟩ := exists_toDigits_eq_cons (size + 1)
      exact ⟨digit, digits, hdigit, .inr (by rw [renderInt, hdigits])⟩

/-- No number but zero is written with a zero in front. -/
private theorem head?_toDigits_ne_zero {number : Nat} (h : 0 < number) :
    (Nat.toDigits 10 number).head? ≠ some '0' := by
  induction number using Nat.strong_induction_on with
  | _ number ih =>
      rw [Nat.toDigits_eq_if (by decide)]
      split_ifs with hsmall
      · have hdigit : ∀ digit < 10, 0 < digit → [Nat.digitChar digit].head? ≠ some '0' := by
          decide
        exact hdigit number hsmall h
      · have hquotient : 0 < number / 10 := by omega
        rw [List.head?_append_of_ne_nil _ Nat.toDigits_ne_nil]
        exact ih _ (by omega) hquotient

private theorem scanFraction_of_closes {rest : List Char} (h : Closes rest) :
    scanFraction rest = some (none, rest) := by
  cases rest with
  | nil => rfl
  | cons char rest =>
      obtain rfl | rfl | rfl := h char rfl <;> rfl

private theorem scanExponent_of_closes {rest : List Char} (h : Closes rest) :
    scanExponent rest = some (none, rest) := by
  cases rest with
  | nil => rfl
  | cons char rest =>
      obtain rfl | rfl | rfl := h char rfl <;> rfl

private theorem scanUnsigned_toDigits {rules : Rules} {rest : List Char} (number : Nat)
    (negative : Bool) (hshort : (Nat.toDigits 10 number).length ≤ rules.digits)
    (hrest : Closes rest) :
    scanUnsigned rules negative (Nat.toDigits 10 number ++ rest) =
      some (.int (if negative then -(number : Int) else number), rest) := by
  have htake := Search.takeWhile_append_of_forall (isDigit_toDigits number) hrest.isDigit_head
  have hdrop := Search.dropWhile_append_of_forall (isDigit_toDigits number) hrest.isDigit_head
  have hlead :
      (Nat.toDigits 10 number).length > 1 → (Nat.toDigits 10 number).head? ≠ some '0' := by
    intro hlong
    apply head?_toDigits_ne_zero
    by_contra hzero
    rw [Nat.eq_zero_of_not_pos hzero] at hlong
    exact absurd hlong (by decide)
  have hwhole :
      ((Nat.toDigits 10 number).isEmpty ||
        (decide ((Nat.toDigits 10 number).length > 1) &&
          (Nat.toDigits 10 number).head? == some '0')) = false := by
    simp only [Bool.or_eq_false_iff, List.isEmpty_eq_false_iff, Bool.and_eq_false_imp,
      decide_eq_true_eq, beq_eq_false_iff_ne]
    exact ⟨Nat.toDigits_ne_nil, hlead⟩
  simp only [scanUnsigned, htake, hdrop, hwhole, Bool.false_eq_true, if_false,
    scanFraction_of_closes hrest, scanExponent_of_closes hrest, Option.bind_eq_bind,
    Option.bind_some, Nat.not_lt.mpr hshort, Nat.ofDigitChars_ten_toDigits]
  simp

/-- A written integer is read up to its last digit, if its digits are not too many. -/
theorem scanNumber_renderInt {rules : Rules} {number : Int} {rest : List Char}
    (hshort : (Nat.toDigits 10 number.natAbs).length ≤ rules.digits) (hrest : Closes rest) :
    scanNumber rules (renderInt number ++ rest) = some (.int number, rest) := by
  cases number with
  | ofNat size =>
      obtain ⟨digit, digits, hdigits, hdigit⟩ := exists_toDigits_eq_cons size
      have hread := scanUnsigned_toDigits size false hshort hrest
      rw [renderInt]
      rw [hdigits] at hread ⊢
      rw [List.cons_append] at hread ⊢
      have hminus : digit ≠ '-' := ne_of_isDigit hdigit rfl
      rw [scanNumber.eq_2 _ _ fun _ heq => hminus (List.cons.inj heq).1, hread]
      rfl
  | negSucc size =>
      have hread := scanUnsigned_toDigits (size + 1) true hshort hrest
      simpa [renderInt, scanNumber, Int.negSucc_eq] using hread

private theorem find?_names_of_isDigit {digit : Char} (h : digit.isDigit = true)
    (rest : List Char) :
    (names.find? fun entry => entry.1.isPrefixOf (digit :: rest)) = none ∧
      (names.find? fun entry => entry.1.isPrefixOf ('-' :: digit :: rest)) = none := by
  have hne : ∀ char, char.isDigit = false → (char == digit) = false := fun char hchar =>
    beq_eq_false_iff_ne.mpr (ne_of_isDigit h hchar).symm
  constructor <;> simp [names, List.isPrefixOf, hne]

/-- A written integer is no name, so it is read as a number. -/
theorem scanScalar_renderInt {rules : Rules} {number : Int} {rest : List Char}
    (hshort : (Nat.toDigits 10 number.natAbs).length ≤ rules.digits) (hrest : Closes rest) :
    scanScalar rules (renderInt number ++ rest) = some (.int number, rest) := by
  obtain ⟨digit, digits, hdigit, hrender⟩ := renderInt_cases number
  have hnone :
      (names.find? fun entry => entry.1.isPrefixOf (renderInt number ++ rest)) = none := by
    obtain hrender | hrender := hrender
    · rw [hrender]
      exact (find?_names_of_isDigit hdigit _).1
    · rw [hrender]
      exact (find?_names_of_isDigit hdigit _).2
  rw [scanScalar, hnone]
  exact scanNumber_renderInt hshort hrest

end Json

end SignedToken
