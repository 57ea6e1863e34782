import SignedToken.Key.Import
import SignedToken.Proofs.Text.Ascii
import SignedToken.Proofs.Text.Break
import SignedToken.Proofs.Text.Piece

/-!
# Blocks in key files

A block that can be read stands in its file between two lines that name it.  Its
body ends with base64, in which there are no dashes; what stands in front of the
base64 are header lines, the last of which is ended by a line feed.
-/

namespace SignedToken

namespace Base64.Lines

theorem symbol_ne_dash : ∀ digit : Sextet, Alphabet.standard.symbol digit ≠ '-' := by decide

theorem dash_notMem_encode (bytes : Bytes) : '-' ∉ encode bytes := by
  simp [encode, padding, symbol_ne_dash]

theorem encode_of_decode {chars : List Char} {bytes : Bytes} (h : decode chars = some bytes) :
    encode bytes = chars := by
  rw [decode] at h
  split at h
  · cases h
  · split_ifs at h with hencoded
    cases h
    exact hencoded

end Base64.Lines

namespace Pem

variable {raw : Raw} {block : Pem} {file rest : Bytes}

/-- How a block is spelled, with blanks after the line that begins it. -/
def Raw.spelled (raw : Raw) (blanks : Bytes) : Bytes :=
  beginMark ++ raw.opening ++ closingMark ++ blanks ++ raw.body ++
    (endMark ++ raw.closing ++ closingMark)

/-- The blanks of a block are all that are there. -/
structure Raw.Follows (raw : Raw) (blanks : Bytes) : Prop where
  blanks_space : ∀ byte ∈ blanks, isSpace byte = true
  body_head : ∀ first ∈ raw.body.head?, isSpace first = false

def Raw.StandsIn (raw : Raw) (file : Bytes) : Prop :=
  ∃ before blanks after, raw.Follows blanks ∧ file = before ++ raw.spelled blanks ++ after

theorem Raw.eq_of_first? (h : Raw.first? file = some (raw, rest)) :
    ∃ before blanks, raw.Follows blanks ∧ file = before ++ raw.spelled blanks ++ rest := by
  simp only [Raw.first?, Option.bind_eq_bind, Option.bind_eq_some_iff, Prod.exists,
    Option.some.injEq, Prod.mk.injEq] at h
  obtain ⟨before, further, hbegin, opening, inside, hopening, body, ending, hbody, closing, last,
    hclosing, rfl, rfl⟩ := h
  have hrest : inside.dropWhile isSpace =
      body ++ endMark ++ (closing ++ closingMark ++ last) := by
    rw [← Search.eq_of_breakAtRun? hclosing, ← Search.eq_of_breakAtRun? hbody]
  have hinside : inside = inside.takeWhile isSpace ++
      (body ++ endMark ++ (closing ++ closingMark ++ last)) := by
    rw [← hrest, List.takeWhile_append_dropWhile]
  have hfollows : Raw.Follows ⟨opening, body, closing⟩ (inside.takeWhile isSpace) := by
    constructor
    · exact fun byte hbyte => List.mem_takeWhile_imp hbyte
    · intro first hfirst
      apply Search.eq_false_of_mem_head?_dropWhile
      rw [hrest, List.append_assoc, List.head?_append, Option.mem_def.mp hfirst]
      rfl
  refine ⟨before, inside.takeWhile isSpace, hfollows, ?_⟩
  calc file
      = before ++ beginMark ++ (opening ++ closingMark ++ inside) := by
        rw [← Search.eq_of_breakAtRun? hopening, ← Search.eq_of_breakAtRun? hbegin]
    _ = before ++ Raw.spelled ⟨opening, body, closing⟩ (inside.takeWhile isSpace) ++ last := by
        conv_lhs => rw [hinside]
        simp [Raw.spelled]

theorem Raw.standsIn_of_first? (h : Raw.first? file = some (raw, rest)) : raw.StandsIn file := by
  obtain ⟨before, blanks, hfollows, hfile⟩ := eq_of_first? h
  exact ⟨before, blanks, rest, hfollows, hfile⟩

theorem Raw.standsIn_of_mem_all {fuel : Nat} (h : raw ∈ Raw.all fuel file) :
    raw.StandsIn file := by
  induction fuel generalizing file with
  | zero => cases h
  | succ fuel ih =>
      rw [Raw.all] at h
      split at h
      · rename_i first rest hfirst
        obtain rfl | hlater := List.mem_cons.mp h
        · exact standsIn_of_first? hfirst
        · obtain ⟨before, blanks, after, hfollows, rfl⟩ := ih hlater
          obtain ⟨start, others, -, rfl⟩ := eq_of_first? hfirst
          exact ⟨start ++ first.spelled others ++ before, blanks, after, hfollows, by simp⟩
      · cases h

/-- In front of the base64 of a body there is nothing, or a blank line ends what is there. -/
theorem splitHeaders_cases {body code : List Char} (h : (splitHeaders body).2 = code) :
    body = code ∨ ∃ lead, body = lead ++ ['\n'] ++ code := by
  subst h
  rw [splitHeaders]
  split
  · rename_i parts hparts
    exact .inr ⟨parts.1 ++ ['\n'], by simpa using Search.eq_of_breakAtRun? hparts⟩
  · cases hparts : Search.breakAtRun? ['\r', '\n', '\r', '\n'] body with
    | none => exact .inl rfl
    | some parts =>
        exact .inr ⟨parts.1 ++ ['\r', '\n', '\r'], by simpa using Search.eq_of_breakAtRun? hparts⟩

/-- A block is named the same twice and holds what the base64 of its body stands for. -/
theorem ofRaw?_eq_some (h : ofRaw? raw = some block) :
    raw.opening = block.label ∧ raw.closing = block.label ∧
      ∃ text, raw.body = Utf8.encode text ∧
        Base64.Lines.decode
          ((splitHeaders text.toList).2.filter (!Blank.isWhiteSpace ·)) = some block.content := by
  simp only [ofRaw?, Option.bind_eq_bind, Option.bind_eq_some_iff] at h
  obtain ⟨_, -, text, htext, names, -, content, hcontent, hblock⟩ := h
  split_ifs at hblock with hlabels
  cases hblock
  simp only [Bool.or_eq_true, not_or, bne_iff_ne, ne_eq, not_not] at hlabels
  exact ⟨rfl, hlabels.2.symm, text, Utf8.eq_encode_of_decode htext, hcontent⟩

/-- The base64 of a block that holds anything is not empty, and has no dashes. -/
theorem exists_code (h : ofRaw? raw = some block) (hcontent : block.content ≠ []) :
    ∃ code, code ≠ [] ∧ 45 ∉ code ∧
      (raw.body = code ∨ ∃ lead, raw.body = lead ++ 10 :: code) := by
  obtain ⟨-, -, text, hbody, hdecode⟩ := ofRaw?_eq_some h
  generalize hcode : (splitHeaders text.toList).2 = code at hdecode
  have hencoded := Base64.Lines.encode_of_decode hdecode
  have hdash : '-' ∉ code := by
    intro hmem
    apply Base64.Lines.dash_notMem_encode block.content
    rw [hencoded]
    exact List.mem_filter.mpr ⟨hmem, by decide⟩
  have hnonempty : code ≠ [] := by
    intro hnil
    rw [hnil] at hdecode
    exact hcontent (Option.some.inj hdecode).symm
  refine ⟨Utf8.encode (String.ofList code), ?_, ?_, ?_⟩
  · rwa [ne_eq, Utf8.encode_ofList_eq_nil_iff]
  · rwa [← String.toList_ofList (l := code), ← Utf8.mem_encode_iff (by decide)] at hdash
  · obtain hall | ⟨lead, hlead⟩ := splitHeaders_cases hcode
    · left
      rw [hbody, ← hall, String.ofList_toList]
    · right
      refine ⟨Utf8.encode (String.ofList lead), ?_⟩
      rw [hbody, ← String.ofList_toList (s := text), hlead, Utf8.encode_ofList_append,
        Utf8.encode_ofList_append, List.append_assoc]
      rfl

theorem exists_of_mem_mapM {α β : Type} {f : α → Option β} {items : List α}
    {results : List β} {result : β} (h : items.mapM f = some results) (hmem : result ∈ results) :
    ∃ item ∈ items, f item = some result := by
  induction items generalizing results with
  | nil =>
      cases h
      cases hmem
  | cons item items ih =>
      simp only [List.mapM_cons, Option.bind_eq_bind, Option.bind_eq_some_iff] at h
      obtain ⟨first, hfirst, others, hothers, heq⟩ := h
      cases heq
      obtain rfl | hlater := List.mem_cons.mp hmem
      · exact ⟨item, List.mem_cons_self, hfirst⟩
      · obtain ⟨found, hfound, hread⟩ := ih hothers hlater
        exact ⟨found, List.mem_cons_of_mem _ hfound, hread⟩

/-- All blocks that are read from a file stand in it. -/
theorem exists_raw_of_mem {blocks : List Pem} (h : decodeAll file = some blocks)
    (hblock : block ∈ blocks) : ∃ raw : Raw, raw.StandsIn file ∧ ofRaw? raw = some block := by
  obtain ⟨raw, hraw, hread⟩ := exists_of_mem_mapM h hblock
  exact ⟨raw, Raw.standsIn_of_mem_all hraw, hread⟩

end Pem

namespace Key

variable {file : Bytes}

/-- The labels of the blocks in which keys are found. -/
def labels : List Bytes :=
  [privateLabel, rsaPrivateLabel, curvePrivateLabel, dsaPrivateLabel, publicLabel, rsaPublicLabel]

/-- A block in a file that may hold a key; no key is written as nothing. -/
structure Contains (file : Bytes) (raw : Pem.Raw) (block : Pem) : Prop where
  stands : raw.StandsIn file
  read : Pem.ofRaw? raw = some block
  label : block.label ∈ labels
  content : block.content ≠ []

private theorem privateOfBlock?_of_empty {block : Pem} (h : block.content = []) :
    privateOfBlock? block = none := by
  rw [privateOfBlock?, h]
  split_ifs with hheader hgeneral hrsa hcurve hdsa
  · rfl
  · rfl
  · rfl
  · rfl
  · cases (Bool.and_eq_true_iff.mp hdsa).2
  · rfl

private theorem label_mem_of_privateOfBlock? {block : Pem} {key : Private}
    (h : privateOfBlock? block = some key) : block.label ∈ labels := by
  rw [privateOfBlock?] at h
  split_ifs at h with hheader hgeneral hrsa hcurve hdsa
  · simp [labels, hgeneral]
  · simp [labels, hrsa]
  · simp [labels, hcurve]
  · rw [Bool.and_eq_true, decide_eq_true_eq] at hdsa
    simp [labels, hdsa.1]

/-- A private key that is read stands in a block of the file. -/
theorem contains_of_privateOfPem? {key : Private} (h : privateOfPem? file = some key) :
    ∃ raw block, Contains file raw block := by
  simp only [privateOfPem?, Option.bind_eq_bind, Option.bind_eq_some_iff] at h
  obtain ⟨blocks, hblocks, block, hfound, hkey⟩ := h
  obtain ⟨raw, hstands, hread⟩ := Pem.exists_raw_of_mem hblocks (List.mem_of_find?_eq_some hfound)
  refine ⟨raw, block, hstands, hread, label_mem_of_privateOfBlock? hkey, fun hnil => ?_⟩
  rw [privateOfBlock?_of_empty hnil] at hkey
  cases hkey

theorem contains_of_publicOfPem? {key : Public} (h : publicOfPem? file = some key) :
    ∃ raw block, Contains file raw block := by
  simp only [publicOfPem?, Pem.decode, Option.bind_eq_bind, Option.bind_eq_some_iff,
    Prod.exists] at h
  obtain ⟨block, ⟨raw, rest, hfirst, hread⟩, hkey⟩ := h
  have hstands := Pem.Raw.standsIn_of_first? hfirst
  split_ifs at hkey with hpublic hrsa
  · refine ⟨raw, block, hstands, hread, by simp [labels, hpublic], fun hnil => ?_⟩
    rw [hnil] at hkey
    cases hkey
  · refine ⟨raw, block, hstands, hread, by simp [labels, hrsa], fun hnil => ?_⟩
    rw [hnil] at hkey
    cases hkey

end Key

end SignedToken
