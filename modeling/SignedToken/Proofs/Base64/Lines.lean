import SignedToken.Base64.Lines
import SignedToken.Proofs.Base64.Spelling
import SignedToken.Text.Blank

/-!
# Base64 in lines is read back

What is written in lines is read as the same bytes.  The line feeds are the only
white space there, and no two of them stand side by side, so that nothing in the
lines looks like the end of header lines.
-/

namespace SignedToken.Base64

/-! ## The standard alphabet -/

theorem digit?_standard_symbol : ∀ digit : Sextet,
    Alphabet.standard.digit? (Alphabet.standard.symbol digit) = some digit := by decide

theorem symbol_ne_padding : ∀ digit : Sextet, Alphabet.standard.symbol digit ≠ '=' := by decide

theorem mapM_digit?_standard_symbols (digits : List Sextet) :
    (digits.map Alphabet.standard.symbol).mapM Alphabet.standard.digit? = some digits := by
  induction digits with
  | nil => rfl
  | cons digit rest ih => simp [digit?_standard_symbol, ih]

theorem isWhiteSpace_symbol : ∀ digit : Sextet,
    Blank.isWhiteSpace (Alphabet.standard.symbol digit) = false := by decide

theorem toNat_symbol_lt : ∀ digit : Sextet,
    (Alphabet.standard.symbol digit).toNat < 128 := by decide

namespace Lines

variable {bytes : Bytes} {chars : List Char} {char : Char}

/-! ## One line -/

theorem mem_encode_cases (h : char ∈ encode bytes) :
    (∃ digit, char = Alphabet.standard.symbol digit) ∨ char = '=' := by
  rw [encode] at h
  rcases List.mem_append.mp h with hsymbol | hpadding
  · obtain ⟨digit, -, rfl⟩ := List.mem_map.mp hsymbol
    exact .inl ⟨digit, rfl⟩
  · exact .inr (List.eq_of_mem_replicate hpadding)

theorem isWhiteSpace_of_mem_encode (h : char ∈ encode bytes) :
    Blank.isWhiteSpace char = false := by
  rcases mem_encode_cases h with ⟨digit, rfl⟩ | rfl
  · exact isWhiteSpace_symbol digit
  · rfl

theorem toNat_lt_of_mem_encode (h : char ∈ encode bytes) : char.toNat < 128 := by
  rcases mem_encode_cases h with ⟨digit, rfl⟩ | rfl
  · exact toNat_symbol_lt digit
  · decide

theorem encode_ne_nil (h : bytes ≠ []) : encode bytes ≠ [] := by
  intro hnil
  apply h
  have hsymbols : (toSextets bytes).map Alphabet.standard.symbol = [] :=
    (List.append_eq_nil_iff.mp hnil).1
  rw [← ofSextets_toSextets bytes, List.map_eq_nil_iff.mp hsymbols]
  rfl

/-- What one line is written as is read back. -/
theorem decode_encode (bytes : Bytes) : decode (encode bytes) = some bytes := by
  have hsymbols : (encode bytes).takeWhile (· != '=') =
      (toSextets bytes).map Alphabet.standard.symbol := by
    have hall : ∀ char ∈ (toSextets bytes).map Alphabet.standard.symbol, (char != '=') = true := by
      intro char hchar
      obtain ⟨digit, -, rfl⟩ := List.mem_map.mp hchar
      exact bne_iff_ne.mpr (symbol_ne_padding digit)
    rw [encode, List.takeWhile_append_of_pos hall, padding, List.takeWhile_replicate]
    simp
  rw [decode, hsymbols, mapM_digit?_standard_symbols]
  simp only [ofSextets_toSextets, if_true]

/-! ## Breaking into lines -/

/-- Lines are broken by line feeds alone. -/
theorem mem_breakLines {width room : Nat} (h : char ∈ breakLines width room chars) :
    char = '\n' ∨ char ∈ chars := by
  induction chars generalizing room with
  | nil => exact .inl (List.mem_singleton.mp h)
  | cons first rest ih =>
      cases room with
      | zero =>
          rcases List.mem_cons.mp h with hfeed | htail
          · exact .inl hfeed
          · rcases List.mem_cons.mp htail with rfl | hrest
            · exact .inr List.mem_cons_self
            · exact (ih hrest).imp_right (List.mem_cons_of_mem _)
      | succ room =>
          rcases List.mem_cons.mp h with rfl | hrest
          · exact .inr List.mem_cons_self
          · exact (ih hrest).imp_right (List.mem_cons_of_mem _)

theorem filter_breakLines {keep : Char → Bool} (hfeed : keep '\n' = false) (width room : Nat)
    (chars : List Char) : (breakLines width room chars).filter keep = chars.filter keep := by
  induction chars generalizing room with
  | nil => simp [breakLines, hfeed]
  | cons first rest ih => cases room <;> simp [breakLines, List.filter_cons, hfeed, ih]

/-- A line feed that breaks lines stands in front of another character, or at the end. -/
theorem isChain_breakLines (h : '\n' ∉ chars) (width room : Nat) :
    (breakLines width room chars).IsChain fun char next => char = '\n' → next ≠ '\n' := by
  induction chars generalizing room with
  | nil => exact List.isChain_singleton _
  | cons first rest ih =>
      obtain ⟨hfirst, hrest⟩ : '\n' ≠ first ∧ '\n' ∉ rest := by simpa using h
      have htail : ∀ room, (first :: breakLines width room rest).IsChain
          fun char next => char = '\n' → next ≠ '\n' := by
        intro room
        exact (ih hrest room).cons fun _ _ hfeed => absurd hfeed.symm hfirst
      cases room with
      | zero => exact List.isChain_cons_cons.mpr ⟨fun _ => hfirst.symm, htail _⟩
      | succ room => exact htail room

/-! ## Lines -/

theorem filter_encodeLines (bytes : Bytes) :
    (encodeLines bytes).filter (!Blank.isWhiteSpace ·) = encode bytes := by
  have hkept : ∀ char ∈ encode bytes, (!Blank.isWhiteSpace char) = true := by
    intro char hchar
    rw [isWhiteSpace_of_mem_encode hchar]
    rfl
  rw [encodeLines, filter_breakLines rfl, List.filter_eq_self.mpr hkept]

theorem feed_notMem_encode (bytes : Bytes) : '\n' ∉ encode bytes := by
  intro h
  cases isWhiteSpace_of_mem_encode h

theorem not_blank_line {before after : List Char} :
    encodeLines bytes ≠ before ++ ['\n', '\n'] ++ after := by
  intro h
  have hchain := isChain_breakLines (feed_notMem_encode bytes) lineWidth lineWidth
  rw [← encodeLines, h, List.append_assoc] at hchain
  have hfeeds := (List.isChain_append.mp hchain).2.1
  exact (List.isChain_cons_cons.mp hfeeds).1 rfl rfl

theorem toNat_lt_of_mem_encodeLines (h : char ∈ encodeLines bytes) : char.toNat < 128 := by
  rcases mem_breakLines h with rfl | hmem
  · decide
  · exact toNat_lt_of_mem_encode hmem

theorem return_notMem_encodeLines (bytes : Bytes) : '\r' ∉ encodeLines bytes := by
  intro h
  rcases mem_breakLines h with hfeed | hmem
  · cases hfeed
  · cases isWhiteSpace_of_mem_encode hmem

end Lines

end SignedToken.Base64
