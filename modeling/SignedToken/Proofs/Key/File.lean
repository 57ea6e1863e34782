import SignedToken.Proofs.Base64.Lines
import SignedToken.Proofs.Key.Block

/-!
# Written files are read back

A block is written with its label on both lines and with base64 in between.  No
dash is in any of these, so that each mark is found exactly where it was written,
and a file with the block is read as that block.
-/

namespace SignedToken

namespace Pem

/-! ## The text in a block -/

theorem isSpace_symbol : ∀ digit : Base64.Sextet,
    isSpace (UInt8.ofNat (Base64.Alphabet.standard.symbol digit).toNat) = false := by decide

/-- The base64 of a block as it stands in a file. -/
def bodyOf (content : Bytes) : Bytes :=
  Bytes.ofAscii (String.ofList (Base64.Lines.encodeLines content))

variable {label content : Bytes}

theorem encode_encodeLines (content : Bytes) :
    Utf8.encode (String.ofList (Base64.Lines.encodeLines content)) = bodyOf content := by
  apply Utf8.encode_of_ascii
  rw [Ascii.encode, if_pos, bodyOf]
  rw [String.toList_ofList, List.all_eq_true]
  intro char hchar
  exact decide_eq_true (Base64.Lines.toNat_lt_of_mem_encodeLines hchar)

theorem dash_notMem_bodyOf (content : Bytes) : 45 ∉ bodyOf content := by
  have hdash : '-' ∉ (String.ofList (Base64.Lines.encodeLines content)).toList := by
    rw [String.toList_ofList]
    intro h
    rcases Base64.Lines.mem_breakLines h with hfeed | hmem
    · cases hfeed
    · exact Base64.Lines.dash_notMem_encode content hmem
  rwa [← Utf8.mem_encode_iff (by decide), encode_encodeLines] at hdash

/-- Lines of base64 begin with a symbol, so that only the line feed in front of them is skipped. -/
theorem isSpace_of_head_bodyOf (h : content ≠ []) :
    ∀ first ∈ (bodyOf content).head?, isSpace first = false := by
  obtain ⟨char, rest, hencode⟩ := List.exists_cons_of_ne_nil (Base64.Lines.encode_ne_nil h)
  have hbody : (bodyOf content).head? = some (UInt8.ofNat char.toNat) := by
    rw [bodyOf, Base64.Lines.encodeLines, hencode, Bytes.ofAscii, String.toList_ofList]
    rfl
  have hchar : char ∈ Base64.Lines.encode content := hencode ▸ List.mem_cons_self
  intro first hfirst
  obtain rfl : UInt8.ofNat char.toNat = first := Option.some.inj (hbody ▸ hfirst)
  rcases Base64.Lines.mem_encode_cases hchar with ⟨digit, rfl⟩ | rfl
  · exact isSpace_symbol digit
  · rfl

/-- Base64 alone has no header lines in front of it. -/
theorem splitHeaders_encodeLines (content : Bytes) :
    splitHeaders (Base64.Lines.encodeLines content) =
      ([], Base64.Lines.encodeLines content) := by
  have hfeeds : Search.breakAtRun? ['\n', '\n'] (Base64.Lines.encodeLines content) = none := by
    apply Option.eq_none_iff_forall_ne_some.mpr
    rintro ⟨before, after⟩ hbreak
    exact Base64.Lines.not_blank_line (Search.eq_of_breakAtRun? hbreak)
  have hreturns : Search.breakAtRun? ['\r', '\n', '\r', '\n'] (Base64.Lines.encodeLines content) =
      none := by
    apply Option.eq_none_iff_forall_ne_some.mpr
    rintro ⟨before, after⟩ hbreak
    apply Base64.Lines.return_notMem_encodeLines content
    simp [Search.eq_of_breakAtRun? hbreak]
  rw [splitHeaders, hfeeds, hreturns]
  rfl

/-! ## The block in its file -/

/-- A mark of dashes is found behind text without dashes. -/
theorem breakAtRun?_dashes {mark before : Bytes} (hmark : mark.head? = some 45)
    (h : 45 ∉ before) (rest : Bytes) :
    Search.breakAtRun? mark (before ++ mark ++ rest) = some (before, rest) := by
  obtain ⟨tail, rfl⟩ := List.head?_eq_some_iff.mp hmark
  exact Search.breakAtRun?_append h rest

/-- Whatever follows them, the blanks in front of a body are all that is skipped. -/
theorem dropWhile_bodyOf (hcontent : content ≠ []) (rest : Bytes) :
    (10 :: (bodyOf content ++ endMark ++ rest)).dropWhile isSpace =
      bodyOf content ++ endMark ++ rest := by
  have hfeed : ∀ byte ∈ [10], isSpace byte = true := by simp [isSpace]
  have hhead : ∀ first ∈ (bodyOf content ++ endMark ++ rest).head?, isSpace first = false := by
    intro first hfirst
    rw [List.append_assoc, List.head?_append] at hfirst
    cases hbody : (bodyOf content).head? with
    | none =>
        rw [hbody] at hfirst
        obtain rfl : 45 = first := Option.some.inj hfirst
        rfl
    | some head =>
        rw [hbody] at hfirst
        obtain rfl : head = first := Option.some.inj hfirst
        exact isSpace_of_head_bodyOf hcontent head hbody
  exact Search.dropWhile_append_of_forall hfeed hhead

theorem first?_encode (hlabel : 45 ∉ label) (hcontent : content ≠ []) :
    Raw.first? (encode label content) = some (⟨label, bodyOf content, label⟩, [10]) := by
  have hspelled : encode label content = [] ++ beginMark ++ (label ++ closingMark ++
      (10 :: (bodyOf content ++ endMark ++ (label ++ closingMark ++ [10])))) := by
    simp [encode, bodyOf]
  have hbegin := breakAtRun?_dashes (show beginMark.head? = some 45 from rfl) List.not_mem_nil
    (label ++ closingMark ++ (10 :: (bodyOf content ++ endMark ++ (label ++ closingMark ++ [10]))))
  have hopening := breakAtRun?_dashes (show closingMark.head? = some 45 from rfl) hlabel
    (10 :: (bodyOf content ++ endMark ++ (label ++ closingMark ++ [10])))
  have hbody := breakAtRun?_dashes (show endMark.head? = some 45 from rfl)
    (dash_notMem_bodyOf content) (label ++ closingMark ++ [10])
  have hclosing := breakAtRun?_dashes (show closingMark.head? = some 45 from rfl) hlabel [10]
  rw [Raw.first?, hspelled, hbegin]
  simp only [Option.bind_eq_bind, Option.bind_some, hopening, dropWhile_bodyOf hcontent, hbody,
    hclosing]

/-- A text in a label is text without dashes. -/
structure IsLabel (label : Bytes) : Prop where
  text : ∃ text, label = Utf8.encode text
  nonempty : label ≠ []
  no_dash : 45 ∉ label

theorem ofRaw?_bodyOf (hlabel : IsLabel label) (content : Bytes) :
    ofRaw? ⟨label, bodyOf content, label⟩ = some ⟨label, [], content⟩ := by
  obtain ⟨⟨text, htext⟩, hnonempty, -⟩ := hlabel
  have hname : Utf8.decode label = some text := by
    rw [htext, Utf8.decode_encode]
  have hbody : Utf8.decode (bodyOf content) =
      some (String.ofList (Base64.Lines.encodeLines content)) := by
    rw [← encode_encodeLines, Utf8.decode_encode]
  have hheaders : headerLines? [] = some [] := rfl
  have hcontent : Base64.Lines.decode
      ((Base64.Lines.encodeLines content).filter (!Blank.isWhiteSpace ·)) = some content := by
    rw [Base64.Lines.filter_encodeLines, Base64.Lines.decode_encode]
  have hsame : (label.isEmpty || label != label) = false := by simp [hnonempty]
  simp only [ofRaw?, Option.bind_eq_bind, Option.bind_some, hname, hbody, String.toList_ofList,
    splitHeaders_encodeLines, hheaders, hcontent, hsame, Bool.false_eq_true, if_false]

/-- What is written as a file is the only block that is read from it, without header lines. -/
theorem decodeAll_encode (hlabel : IsLabel label) (hcontent : content ≠ []) :
    decodeAll (encode label content) = some [⟨label, [], content⟩] := by
  have hlast : ∀ fuel, Raw.all fuel [10] = [] := by
    intro fuel
    cases fuel <;> rfl
  have hall : Raw.all (encode label content).length (encode label content) =
      [⟨label, bodyOf content, label⟩] := by
    obtain ⟨fuel, hfuel⟩ : ∃ fuel, (encode label content).length = fuel + 1 :=
      Nat.exists_eq_succ_of_ne_zero (by simp [encode])
    rw [hfuel, Raw.all, first?_encode hlabel.no_dash hcontent]
    simp only [hlast]
  rw [decodeAll, hall, List.mapM_cons, List.mapM_nil, ofRaw?_bodyOf hlabel]
  rfl

theorem decode_encode (hlabel : IsLabel label) (hcontent : content ≠ []) :
    decode (encode label content) = some ⟨label, [], content⟩ := by
  rw [decode, first?_encode hlabel.no_dash hcontent]
  exact ofRaw?_bodyOf hlabel content

end Pem

end SignedToken
