import SignedToken.Base64.Lenient
import SignedToken.Proofs.Base64.Bits
import SignedToken.Proofs.Base64.Lines

/-!
# Why a text is no base64

A text is refused for its characters, or else for its length, or else for the
bits of its last symbol that fill no octet.  The last is found by comparing the
text with what its own bytes are written as; the two are alike but for the last
symbol.  A lenient reader has nothing left to refuse after the first two checks,
so a strict reader around it has the same verdicts.
-/

namespace SignedToken.Base64

/-! ## Bits that fill no octet -/

/-- Four sextets hold three octets, so the last group of them counts. -/
@[elab_as_elim]
theorem groups_induction {motive : List Sextet → Prop} (zero : motive [])
    (one : ∀ a, motive [a]) (two : ∀ a b, motive [a, b]) (three : ∀ a b c, motive [a, b, c])
    (more : ∀ a b c d rest, motive rest → motive (a :: b :: c :: d :: rest)) :
    ∀ digits, motive digits
  | [] => zero
  | [a] => one a
  | [a, b] => two a b
  | [a, b, c] => three a b c
  | a :: b :: c :: d :: rest =>
      more a b c d rest (groups_induction zero one two three more rest)

/-- The same sextets with zeros for the bits that fill no octet. -/
def clearEnd : List Sextet → List Sextet
  | a :: b :: c :: d :: rest => a :: b :: c :: d :: clearEnd rest
  | [a, b, c] => [a, b, sextet (c.val / 4 * 4)]
  | [a, b] => [a, sextet (b.val / 16 * 16)]
  | digits => digits

/-- Whether some of the bits that fill no octet are set: the four lowest ones of a second sextet, or
the two lowest ones of a third. -/
def IsLoose (digits : List Sextet) : Prop :=
  ∃ last ∈ digits.getLast?,
    digits.length % 4 = 2 ∧ last.val % 16 ≠ 0 ∨ digits.length % 4 = 3 ∧ last.val % 4 ≠ 0

/-- Four sextets fill three bytes; bits that fill none are dropped. -/
theorem length_ofSextets (digits : List Sextet) :
    (ofSextets digits).length = digits.length * 3 / 4 := by
  induction digits using groups_induction with
  | zero => simp [ofSextets]
  | one a => simp [ofSextets]
  | two a b => simp [ofSextets]
  | three a b c => simp [ofSextets]
  | more a b c d rest ih =>
      simp only [ofSextets, List.length_cons, ih]
      omega

@[simp]
theorem length_clearEnd (digits : List Sextet) : (clearEnd digits).length = digits.length := by
  induction digits using groups_induction with
  | zero => rfl
  | one a => rfl
  | two a b => rfl
  | three a b c => rfl
  | more a b c d rest ih => simp only [clearEnd, List.length_cons, ih]

/-- Only the last sextet has bits that fill no octet. -/
theorem dropLast_clearEnd (digits : List Sextet) :
    (clearEnd digits).dropLast = digits.dropLast := by
  induction digits using groups_induction with
  | zero => rfl
  | one a => rfl
  | two a b => rfl
  | three a b c => rfl
  | more a b c d rest ih =>
      obtain rfl | hrest := eq_or_ne rest []
      · rfl
      · have hcleared : clearEnd rest ≠ [] := by
          rwa [← List.length_pos_iff, length_clearEnd, List.length_pos_iff]
        simp only [clearEnd, List.dropLast_cons_of_ne_nil, ne_eq, reduceCtorEq, not_false_eq_true,
          hrest, hcleared, ih]

private theorem sextet_eq_iff (digit : Sextet) (number : Nat) :
    sextet number = digit ↔ number % 64 = digit.val := by
  rw [Fin.ext_iff, val_sextet]

theorem clearEnd_eq_self_iff (digits : List Sextet) :
    clearEnd digits = digits ↔ ¬ IsLoose digits := by
  induction digits using groups_induction with
  | zero => simp [clearEnd, IsLoose]
  | one a => simp [clearEnd, IsLoose]
  | two a b =>
      have hcleared : b.val / 16 * 16 % 64 = b.val ↔ b.val % 16 = 0 := by omega
      simp [clearEnd, IsLoose, sextet_eq_iff, hcleared]
  | three a b c =>
      have hcleared : c.val / 4 * 4 % 64 = c.val ↔ c.val % 4 = 0 := by omega
      simp [clearEnd, IsLoose, sextet_eq_iff, hcleared]
  | more a b c d rest ih =>
      have hloose : IsLoose (a :: b :: c :: d :: rest) ↔ IsLoose rest := by
        have hlength (length : Nat) : (length + 1 + 1 + 1 + 1) % 4 = length % 4 := by omega
        cases rest with
        | nil => simp [IsLoose]
        | cons first others =>
            rw [IsLoose, IsLoose, List.getLast?_cons_cons, List.getLast?_cons_cons,
              List.getLast?_cons_cons, List.getLast?_cons_cons]
            simp only [List.length_cons, hlength]
      rw [hloose, ← ih]
      simp [clearEnd]

/-- Octets that are read from sextets are regrouped into them, with zeros for what filled none. -/
theorem toSextets_ofSextets {digits : List Sextet} (h : digits.length % 4 ≠ 1) :
    toSextets (ofSextets digits) = clearEnd digits := by
  induction digits using groups_induction with
  | zero => rfl
  | one a => exact absurd rfl h
  | two a b =>
      have ha := a.isLt
      have hb := b.isLt
      simp only [ofSextets, toSextets, clearEnd, List.cons.injEq, sextet_eq_iff, and_true]
      simp only [val_sextet, UInt8.toNat_ofNat']
      omega
  | three a b c =>
      have ha := a.isLt
      have hb := b.isLt
      have hc := c.isLt
      simp only [ofSextets, toSextets, clearEnd, List.cons.injEq, sextet_eq_iff, and_true]
      simp only [val_sextet, UInt8.toNat_ofNat']
      omega
  | more a b c d rest ih =>
      have ha := a.isLt
      have hb := b.isLt
      have hc := c.isLt
      have hd := d.isLt
      have hrest : rest.length % 4 ≠ 1 := by
        simp only [List.length_cons] at h
        omega
      simp only [ofSextets, toSextets, clearEnd, List.cons.injEq, sextet_eq_iff, ih hrest, and_true]
      simp only [UInt8.toNat_ofNat']
      omega

/-! ## Symbols -/

theorem digit?_eq_some_iff {char : Char} {digit : Sextet} :
    Alphabet.url.digit? char = some digit ↔ Alphabet.url.symbol digit = char := by
  constructor
  · intro h
    have hchar (number : Nat) (hnumber : number = char.toNat) : Char.ofNat number = char := by
      rw [hnumber, Char.ofNat_toNat]
    simp only [Alphabet.digit?] at h
    split_ifs at h with hupper hlower hnumeral hminus hline
    all_goals obtain rfl := Option.some.inj h
    · have hdigit := val_sextet (char.toNat - 65)
      rw [Alphabet.symbol, if_pos (by omega)]
      exact hchar _ (by omega)
    · have hdigit := val_sextet (char.toNat - 71)
      rw [Alphabet.symbol, if_neg (by omega), if_pos (by omega)]
      exact hchar _ (by omega)
    · have hdigit := val_sextet (char.toNat + 4)
      rw [Alphabet.symbol, if_neg (by omega), if_neg (by omega), if_pos (by omega)]
      exact hchar _ (by omega)
    · exact hminus.symm
    · exact hline.symm
  · rintro rfl
    exact digit?_symbol digit

namespace Url

theorem digit?_point_eq_some_iff {point : CodePoint} {digit : Sextet} :
    digit? point = some digit ↔ symbol digit = point := by
  cases point with
  | char value => rw [symbol, CodePoint.char.injEq, ← digit?_eq_some_iff]; rfl
  | surrogate index => simp [digit?, CodePoint.char?, symbol]

theorem symbol_injective : Function.Injective symbol := by
  intro left right heq
  have hdigit := digit?_point_eq_some_iff.mpr heq
  rw [digit?_point_eq_some_iff.mpr rfl] at hdigit
  exact (Option.some.inj hdigit).symm

/-- Whether a text has symbols only. -/
def IsPlain (text : Text) : Prop := ∀ point ∈ text.toList, point ∈ symbols

theorem mem_symbols_iff {point : CodePoint} :
    point ∈ symbols ↔ ∃ digit, symbol digit = point := by
  rw [List.mem_iff_getElem?]
  constructor
  · rintro ⟨place, hplace⟩
    obtain ⟨hlt, -⟩ := List.getElem?_eq_some_iff.mp hplace
    have hdigit := getElem?_symbols ⟨place, hlt⟩
    rw [hplace] at hdigit
    exact ⟨⟨place, hlt⟩, (Option.some.inj hdigit).symm⟩
  · rintro ⟨digit, rfl⟩
    exact ⟨digit.val, getElem?_symbols digit⟩

theorem isSome_digit?_iff {point : CodePoint} :
    (digit? point).isSome = true ↔ point ∈ symbols := by
  rw [Option.isSome_iff_exists, mem_symbols_iff]
  exact exists_congr fun digit => digit?_point_eq_some_iff

/-- A text of symbols only is what some sextets stand for. -/
theorem isPlain_iff_exists_digits {text : Text} :
    IsPlain text ↔ ∃ digits : List Sextet, text.toList = digits.map symbol := by
  have hmap : (∃ digits : List Sextet, text.toList = digits.map symbol) ↔
      text.toList ∈ Set.range (List.map symbol) := by
    simp only [Set.mem_range, eq_comm]
  rw [hmap, Set.range_list_map, Set.mem_ofPred_eq, IsPlain]
  exact forall₂_congr fun point _ => mem_symbols_iff

/-! ## Verdicts -/

/-- Whether the last symbol of a text has bits set that fill no octet. -/
def EndsLoose (text : Text) : Prop :=
  ∃ last ∈ text.toList.getLast?, ∃ digit, IsSymbolOf last digit ∧
    (text.length % 4 = 2 ∧ digit.val % 16 ≠ 0 ∨ text.length % 4 = 3 ∧ digit.val % 4 ≠ 0)

variable {text : Text} {digits : List Sextet}

theorem length_of_digits (h : text.toList = digits.map symbol) :
    text.length = digits.length := by
  rw [Text.length, h, List.length_map]

theorem isSymbolOf_symbol_iff {digit other : Sextet} :
    IsSymbolOf (symbol digit) other ↔ other = digit := by
  rw [IsSymbolOf, getElem?_symbols, Option.some.injEq, symbol_injective.eq_iff]

theorem endsLoose_iff_isLoose (h : text.toList = digits.map symbol) :
    EndsLoose text ↔ IsLoose digits := by
  rw [EndsLoose, IsLoose, h, List.getLast?_map, length_of_digits h]
  cases digits.getLast? with
  | none => simp
  | some last => simp [isSymbolOf_symbol_iff]

theorem length_mod_of_endsLoose (h : EndsLoose text) : text.length % 4 ≠ 1 := by
  obtain ⟨last, -, digit, -, hplace⟩ := h
  omega

private theorem isSome_of_mapM {points : List CodePoint} (h : points.mapM digit? = some digits) :
    ∀ point ∈ points, (digit? point).isSome = true := by
  induction points generalizing digits with
  | nil => simp
  | cons point rest ih =>
      simp only [List.mapM_cons, Option.bind_eq_bind, Option.bind_eq_some_iff] at h
      obtain ⟨digit, hdigit, others, hothers, -⟩ := h
      rw [List.forall_mem_cons, hdigit]
      exact ⟨rfl, ih hothers⟩

/-- A character that is no symbol is noticed before anything else. -/
theorem decode_of_not_isPlain (h : ¬ IsPlain text) :
    decode text = .error .unexpectedCharacter := by
  rw [decode]
  cases hread : text.toList.mapM digit? with
  | none => rfl
  | some digits =>
      refine absurd (fun point hpoint => ?_) h
      exact isSome_digit?_iff.mp (isSome_of_mapM hread point hpoint)

/-- Comparing a text with what its bytes are written as only looks at the bits of its end. -/
theorem encode_ofSextets_eq_iff (h : text.toList = digits.map symbol)
    (hlength : digits.length % 4 ≠ 1) : encode (ofSextets digits) = text ↔ ¬ IsLoose digits := by
  rw [Text.ext_iff, toList_encode, toSextets_ofSextets hlength, h, ← clearEnd_eq_self_iff,
    (List.map_injective_iff.mpr symbol_injective).eq_iff]

theorem decode_of_digits (h : text.toList = digits.map symbol) :
    decode text =
      if digits.length % 4 = 1 then .error .invalidLength
      else if encode (ofSextets digits) = text then .ok (ofSextets digits)
      else .error .nonCanonical := by
  have hread : text.toList.mapM digit? = some digits := by
    rw [h, mapM_digit?_symbols]
  simp only [decode, hread]

/-- Every text is in one of four classes, and its class decides what reading it comes to. -/
theorem decode_cases (text : Text) :
    (¬ IsPlain text ∧ decode text = .error .unexpectedCharacter) ∨
      (IsPlain text ∧ text.length % 4 = 1 ∧ decode text = .error .invalidLength) ∨
      (IsPlain text ∧ EndsLoose text ∧ decode text = .error .nonCanonical) ∨
      (IsPlain text ∧ text.length % 4 ≠ 1 ∧ ¬ EndsLoose text ∧
        ∃ bytes, decode text = .ok bytes ∧ bytes.length = text.length * 3 / 4) := by
  by_cases hplain : IsPlain text
  · obtain ⟨digits, hdigits⟩ := isPlain_iff_exists_digits.mp hplain
    have hdecode := decode_of_digits hdigits
    rw [length_of_digits hdigits, endsLoose_iff_isLoose hdigits]
    by_cases hlength : digits.length % 4 = 1
    · rw [if_pos hlength] at hdecode
      exact .inr (.inl ⟨hplain, hlength, hdecode⟩)
    · rw [if_neg hlength] at hdecode
      have hcompare := encode_ofSextets_eq_iff hdigits hlength
      by_cases hloose : IsLoose digits
      · rw [if_neg (hcompare.not.mpr (not_not.mpr hloose))] at hdecode
        exact .inr (.inr (.inl ⟨hplain, hloose, hdecode⟩))
      · rw [if_pos (hcompare.mpr hloose)] at hdecode
        exact .inr (.inr (.inr
          ⟨hplain, hlength, hloose, _, hdecode, length_ofSextets digits⟩))
  · exact .inl ⟨hplain, decode_of_not_isPlain hplain⟩

end Url

/-! ## The lenient reader inside -/

namespace Lenient

variable {digits : List Sextet}

theorem toStandard_symbol : ∀ digit : Sextet,
    toStandard (Alphabet.url.symbol digit) = Alphabet.standard.symbol digit := by decide

/-- Symbols are taken in one by one. -/
theorem scan_symbols (read digits : List Sextet) (rest : List Char) :
    scan .standard read 0 (digits.map Alphabet.standard.symbol ++ rest) =
      scan .standard (read ++ digits) 0 rest := by
  induction digits generalizing read with
  | nil => simp
  | cons digit digits ih =>
      rw [List.map_cons, List.cons_append, scan, if_neg (symbol_ne_padding digit),
        digit?_standard_symbol]
      simp only [ih, List.append_assoc, List.singleton_append]

/-- The padding of a text ends the reading, unless a lone symbol is left over. -/
theorem scan_padding (h : digits.length % 4 ≠ 1) :
    scan .standard digits 0 (Lines.padding digits.length) = .ok digits := by
  have hplace : digits.length % 4 = 0 ∨ digits.length % 4 = 2 ∨ digits.length % 4 = 3 := by omega
  rw [Lines.padding]
  obtain hplace | hplace | hplace := hplace <;> simp [hplace, scan, List.replicate]

theorem decode_of_digits (h : digits.length % 4 ≠ 1) :
    decode (digits.map Alphabet.url.symbol) = .ok (ofSextets digits) := by
  have hpadding : (Lines.padding digits.length).map toStandard = Lines.padding digits.length := by
    rw [Lines.padding, List.map_replicate]
    rfl
  have hsymbols : (digits.map Alphabet.url.symbol).map toStandard =
      digits.map Alphabet.standard.symbol := by
    rw [List.map_map]
    exact List.map_congr_left fun digit _ => toStandard_symbol digit
  rw [decode, List.length_map, List.map_append, hsymbols, hpadding, scan_symbols, List.nil_append,
    scan_padding h]
  rfl

end Lenient

namespace Url

variable {text : Text}

theorem chars_of_digits {digits : List Sextet} (h : text.toList = digits.map symbol) :
    text.chars = digits.map Alphabet.url.symbol := by
  have hchar : CodePoint.char? ∘ symbol = some ∘ Alphabet.url.symbol := rfl
  rw [Text.chars, h, List.filterMap_map, hchar, List.filterMap_eq_map]

/-- After the checks of characters and length, the lenient reader reads every text, and what it
read is written as the same text but for the last symbol. -/
theorem exists_lenient_decode (hplain : IsPlain text) (hlength : text.length % 4 ≠ 1) :
    ∃ bytes, Lenient.decode text.chars = .ok bytes ∧ bytes.length = text.length * 3 / 4 ∧
      (encode bytes : Text).length = text.length ∧
      (encode bytes : Text).toList.dropLast = text.toList.dropLast := by
  obtain ⟨digits, hdigits⟩ := isPlain_iff_exists_digits.mp hplain
  rw [length_of_digits hdigits] at hlength ⊢
  have hencode : (encode (ofSextets digits) : Text).toList = (clearEnd digits).map symbol := by
    rw [toList_encode, toSextets_ofSextets hlength]
  refine ⟨ofSextets digits, ?_, length_ofSextets digits, ?_, ?_⟩
  · rw [chars_of_digits hdigits, Lenient.decode_of_digits hlength]
  · rw [Text.length, hencode, List.length_map, length_clearEnd]
  · rw [hencode, hdigits, ← List.map_dropLast, ← List.map_dropLast, dropLast_clearEnd]

/-- The stages come to the verdicts of the strict reader, and never to a failure of the lenient
one. -/
theorem decodeInStages_eq (text : Text) :
    decodeInStages text = (decode text).mapError .refused := by
  have hall : (text.toList.all fun point => (digit? point).isSome) = true ↔ IsPlain text := by
    rw [List.all_eq_true, IsPlain]
    exact forall₂_congr fun point _ => isSome_digit?_iff
  rw [decodeInStages]
  by_cases hplain : IsPlain text
  · obtain ⟨digits, hdigits⟩ := isPlain_iff_exists_digits.mp hplain
    rw [if_pos (hall.mpr hplain), decode_of_digits hdigits, length_of_digits hdigits]
    by_cases hlength : digits.length % 4 = 1
    · rw [if_pos hlength, if_pos hlength]
      rfl
    · rw [if_neg hlength, if_neg hlength, chars_of_digits hdigits,
        Lenient.decode_of_digits hlength]
      dsimp only
      split_ifs <;> rfl
  · rw [if_neg (hall.not.mpr hplain), decode_of_not_isPlain hplain]
    rfl

/-! ## The partition -/

/-- Whether reading a text ends with an error for what is no base64, in these words. -/
def RefusedAs (text : Text) (message : String) : Prop :=
  ∃ failure, decode text = .error failure ∧ failure.message = message ∧
    (DecodeFailure.base64 failure).kind = .base64DecodeError

theorem Failure.message_injective : Function.Injective Failure.message := by
  intro left right heq
  cases left <;> cases right <;> first | rfl | exact absurd heq (by decide)

theorem refusedAs_message_iff (failure : Failure) :
    RefusedAs text failure.message ↔ decode text = .error failure := by
  constructor
  · rintro ⟨found, hfound, hmessage, -⟩
    rw [hfound, Failure.message_injective hmessage]
  · intro hfails
    exact ⟨failure, hfails, rfl, rfl⟩

/-- A text is refused for a character that is no symbol, or else for a length that leaves one over
modulo four, or else for bits of its last symbol that fill no octet; every other text is read, as
three bytes for four symbols.  Reading in stages with a lenient reader inside comes to the same
verdicts, none of which is a failure of that reader: it reads every text that gets as far, and what
it reads is written as the same text but for the last symbol. -/
theorem refusals_partition (text : Text) :
    (RefusedAs text "invalid base64: unexpected character or padding" ↔
        ∃ point ∈ text.toList, point ∉ symbols) ∧
      (RefusedAs text "invalid base64: invalid length" ↔
        IsPlain text ∧ text.length % 4 = 1) ∧
      (RefusedAs text "invalid base64: non-canonical encoding" ↔
        IsPlain text ∧ EndsLoose text) ∧
      ((∃ bytes, decode text = .ok bytes) ↔
        IsPlain text ∧ text.length % 4 ≠ 1 ∧ ¬ EndsLoose text) ∧
      (∀ bytes, decode text = .ok bytes → bytes.length = text.length * 3 / 4) ∧
      decodeInStages text = (decode text).mapError .refused ∧
      (∀ failure, decodeInStages text ≠ .error (.unread failure)) ∧
      (IsPlain text → text.length % 4 ≠ 1 →
        ∃ bytes, Lenient.decode text.chars = .ok bytes ∧ bytes.length = text.length * 3 / 4 ∧
          (encode bytes : Text).length = text.length ∧
          (encode bytes : Text).toList.dropLast = text.toList.dropLast) := by
  have hcharacter : RefusedAs text "invalid base64: unexpected character or padding" ↔
      decode text = .error .unexpectedCharacter := refusedAs_message_iff .unexpectedCharacter
  have hlength : RefusedAs text "invalid base64: invalid length" ↔
      decode text = .error .invalidLength := refusedAs_message_iff .invalidLength
  have hcanonical : RefusedAs text "invalid base64: non-canonical encoding" ↔
      decode text = .error .nonCanonical := refusedAs_message_iff .nonCanonical
  have hstray : (∃ point ∈ text.toList, point ∉ symbols) ↔ ¬ IsPlain text := by
    simp [IsPlain]
  have hmod : EndsLoose text → text.length % 4 ≠ 1 := length_mod_of_endsLoose
  have hstages : ∀ failure, decodeInStages text ≠ .error (.unread failure) := by
    intro failure
    rw [decodeInStages_eq]
    cases decode text <;> simp [Except.mapError]
  rw [hcharacter, hlength, hcanonical, hstray]
  refine and_assoc.mp (and_assoc.mp (and_assoc.mp (and_assoc.mp
    ⟨?_, decodeInStages_eq text, hstages, exists_lenient_decode⟩)))
  obtain ⟨hplain, hread⟩ | ⟨hplain, hone, hread⟩ | ⟨hplain, hloose, hread⟩ |
    ⟨hplain, hone, hloose, bytes, hread, hbytes⟩ := decode_cases text
  · simp [hread, hplain]
  · have htight : ¬ EndsLoose text := fun hloose => hmod hloose hone
    simp [hread, hplain, hone, htight]
  · simp [hread, hplain, hloose, hmod hloose]
  · simp [hread, hplain, hone, hloose, hbytes]

/-- The last symbol of "Zm9" stands for 61, whose lowest bit fills no octet. -/
theorem refusals_partition_of_loose :
    IsPlain "Zm9" ∧ ("Zm9" : Text).length % 4 ≠ 1 ∧
      RefusedAs "Zm9" "invalid base64: non-canonical encoding" ∧
      ∃ bytes, Lenient.decode ['Z', 'm', '9'] = .ok bytes ∧ bytes.length = 2 ∧
        (encode bytes : Text).toList.dropLast = [.char 'Z', .char 'm'] := by
  have hplain : IsPlain "Zm9" :=
    isPlain_iff_exists_digits.mpr ⟨[25, 38, 61], rfl⟩
  have hlength : ("Zm9" : Text).length % 4 ≠ 1 := by decide
  have hloose : EndsLoose "Zm9" :=
    ⟨.char '9', rfl, 61, by unfold IsSymbolOf; rfl,
      .inr (by decide)⟩
  obtain ⟨-, -, hcanonical, -, -, -, -, hlenient⟩ := refusals_partition "Zm9"
  obtain ⟨bytes, hread, hbytes, -, hstart⟩ := hlenient hplain hlength
  exact ⟨hplain, hlength, hcanonical.mpr ⟨hplain, hloose⟩, bytes, hread,
    hbytes.trans rfl, hstart.trans rfl⟩

end Url

end SignedToken.Base64
