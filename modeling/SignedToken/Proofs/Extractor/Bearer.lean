import Mathlib
import SignedToken.Extractor
import SignedToken.Proofs.Text.Piece

/-!
# What an extractor finds in a field

A token is presented under a scheme by a value that holds the name of the scheme
in any case, at least one space and the token, with blanks around all of it.  An
extractor reads the name up to the first space, so it finds every token that is
presented to it if there is no space in the name that it asks for, and none if
there is one.
-/

namespace SignedToken

/-! ## Letters in either case -/

/-- Only the letters from A to Z have another letter for their lower case. -/
theorem toNat_toLower (char : Char) :
    char.toLower.toNat =
      if 65 ≤ char.toNat ∧ char.toNat ≤ 90 then char.toNat + 32 else char.toNat := by
  unfold Char.toLower
  split
  · rename_i hupper
    have hrange : 65 ≤ char.toNat ∧ char.toNat ≤ 90 := hupper
    have hbound : char.val.toNat ≤ 90 := hrange.2
    have hsum : (char.val + 32).toNat = char.val.toNat + 32 := by
      simp only [UInt32.toNat_add, UInt32.reduceToNat]
      omega
    rw [if_pos hrange]
    exact hsum
  · rename_i hupper
    exact (if_neg hupper).symm

theorem Blank.isBlank_toLower (char : Char) : isBlank char.toLower = isBlank char := by
  rw [Bool.eq_iff_iff]
  simp only [isBlank, isWhiteSpace, toNat_toLower, Bool.or_eq_true, Bool.and_eq_true,
    decide_eq_true_eq, beq_iff_eq]
  split_ifs
  · omega
  · rfl

namespace Extractor

theorem toNat_lowerChar (char : Char) :
    (lowerChar char).toNat =
      if 0xC0 ≤ char.toNat ∧ char.toNat ≤ 0xDE ∧ char.toNat ≠ 0xD7 then char.toNat + 32
      else if char.toNat = 0x178 then 0xFF
      else if char.toNat = 0x1E9E then 0xDF
      else if char.toNat = 0x212A then 0x6B
      else if char.toNat = 0x212B then 0xE5
      else char.toLower.toNat := by
  simp only [lowerChar, Bool.and_eq_true, decide_eq_true_eq, bne_iff_ne, ne_eq, beq_iff_eq,
    and_assoc]
  split_ifs with hlatin
  · have hvalid : (char.toNat + 32).isValidChar := .inl (by omega)
    rw [Char.toNat_ofNat, if_pos hvalid]
  all_goals rfl

theorem lowerChar_toLower (char : Char) : lowerChar char.toLower = lowerChar char := by
  rw [← Char.toNat_inj]
  simp only [toNat_lowerChar, toNat_toLower]
  split_ifs <;> omega

/-- Texts that are the same but for the case of their letters have the same lower case. -/
theorem lower_eq_of_map_toLower {word scheme : List Char}
    (h : word.map Char.toLower = scheme.map Char.toLower) : lower word = lower scheme := by
  have hlower (text : List Char) : lower text = (text.map Char.toLower).map lowerChar := by
    simp [lower, lowerChar_toLower]
  rw [hlower, h, ← hlower]

/-- No letter becomes a space, nor a space a letter. -/
theorem space_mem_lower_iff {text : List Char} : ' ' ∈ lower text ↔ ' ' ∈ text := by
  have hspace (char : Char) : lowerChar char = ' ' ↔ char = ' ' := by
    rw [← Char.toNat_inj, ← Char.toNat_inj, toNat_lowerChar, toNat_toLower]
    show _ = 32 ↔ _ = 32
    split_ifs <;> omega
  simp [lower, hspace]

end Extractor

/-! ## Presented tokens -/

/-- A field that stands once in a request has its value, if it is not for the length of the
content. -/
theorem Http.Request.field?_of_single {request : Http.Request} {name value : String}
    (hname : fieldKey name ≠ lengthKey)
    (h : (request.fields.filter fun field => fieldKey field.1 == fieldKey name).map (·.2) =
      [value]) : request.field? name = some value := by
  simp only [Request.field?, h, if_neg hname]
  simp

/-- A printable character of ASCII, the space among them. -/
def IsPrintable (char : Char) : Prop := 32 ≤ char.toNat ∧ char.toNat ≤ 126

theorem IsPrintable.isBlank_eq_false {char : Char} (h : IsPrintable char) (hspace : char ≠ ' ') :
    Blank.isBlank char = false := by
  have hnumber : char.toNat ≠ 32 := fun heq => hspace (Char.toNat_inj.mp heq)
  obtain ⟨hlow, hhigh⟩ := h
  simp only [Blank.isBlank, Blank.isWhiteSpace, Bool.or_eq_false_iff, Bool.and_eq_false_iff,
    decide_eq_false_iff_not, beq_eq_false_iff_ne]
  omega

namespace Extractor

/-- A value of a field that presents a token under a scheme. -/
def Presents (scheme token value : List Char) : Prop :=
  ∃ before word gap after, value = before ++ (word ++ ' ' :: (gap ++ token)) ++ after ∧
    word.map Char.toLower = scheme.map Char.toLower ∧
    ∀ char ∈ before ++ gap ++ after, Blank.isBlank char = true

/-- A token is not empty, and no blank stands at its ends. -/
structure IsToken (token : List Char) : Prop where
  ne_nil : token ≠ []
  first : ∀ char ∈ token.head?, Blank.isBlank char = false
  last : ∀ char ∈ token.getLast?, Blank.isBlank char = false

variable {field scheme : String} {extractor : Extractor}

theorem makeBearer_eq_ok_iff :
    makeBearer field scheme = .ok extractor ↔
      isBlankText field = false ∧ isBlankText scheme = false ∧
        extractor = .bearer field scheme := by
  rw [makeBearer]
  cases isBlankText field <;> cases isBlankText scheme <;> simp [eq_comm]

/-- The text before the first space and the text after it. -/
private theorem divide_at_space {word : List Char} (h : ' ' ∉ word) (rest : List Char) :
    (word ++ ' ' :: rest).takeWhile (· != ' ') = word ∧
      ((word ++ ' ' :: rest).dropWhile (· != ' ')).drop 1 = rest := by
  have hword : ∀ char ∈ word, (char != ' ') = true := by
    intro char hchar
    rw [bne_iff_ne]
    exact fun hspace => h (hspace ▸ hchar)
  have hhead : ∀ first ∈ (' ' :: rest).head?, (first != ' ') = false := by simp
  rw [Search.takeWhile_append_of_forall hword hhead, Search.dropWhile_append_of_forall hword hhead]
  exact ⟨rfl, rfl⟩

/-- The text before the first space is the name of the scheme in some case, and what follows is the
token with blanks around it. -/
theorem extractBearer_of_stripsTo {request : Http.Request} {value : String}
    {word rest token : List Char} (hvalue : request.field? field = some value)
    (hstrips : Blank.StripsTo Blank.isBlank value.toList (word ++ ' ' :: rest))
    (hword : ' ' ∉ word) (hscheme : lower word = lower scheme.toList)
    (hrest : Blank.StripsTo Blank.isBlank rest token) (hne : token ≠ []) :
    extractBearer field scheme request = pure (String.ofList token) := by
  obtain ⟨htake, hdrop⟩ := divide_at_space hword rest
  simp only [extractBearer, hvalue, Option.getD_some, Blank.trim_of_stripsTo hstrips, htake, hdrop,
    Blank.trim_of_stripsTo hrest, hscheme]
  simp [hne]

/-- The text before the first space is never the name of a scheme with a space. -/
theorem extractBearer_of_space (hspace : ' ' ∈ scheme.toList) (request : Http.Request) :
    ∃ message, (extractBearer field scheme request).outcome =
      .error (.refused (.missing message)) := by
  simp only [extractBearer]
  generalize Blank.trim Blank.isBlank ((request.field? field).getD "").toList = value
  have hdiffers : lower (value.takeWhile (· != ' ')) ≠ lower scheme.toList := by
    intro heq
    have hmem : ' ' ∈ value.takeWhile (· != ' ') := by
      rwa [← space_mem_lower_iff, heq, space_mem_lower_iff]
    simpa using List.mem_takeWhile_imp hmem
  rw [if_pos hdiffers]
  split
  · exact ⟨_, rfl⟩
  · exact ⟨_, rfl⟩

/-- The blanks around a presented token are taken away in two steps, first from the value and then
from what follows the first space. -/
theorem extractBearer_of_presents {request : Http.Request} {value : String} {token : List Char}
    (hne : scheme.toList ≠ []) (hblank : ∀ char ∈ scheme.toList, Blank.isBlank char = false)
    (hvalue : request.field? field = some value)
    (hpresents : Presents scheme.toList token value.toList) (htoken : IsToken token) :
    extractBearer field scheme request = pure (String.ofList token) := by
  obtain ⟨before, word, gap, after, hspelled, hcase, hblanks⟩ := hpresents
  simp only [List.mem_append, or_imp, forall_and] at hblanks
  obtain ⟨⟨hbefore, hgap⟩, hafter⟩ := hblanks
  -- No letter is a blank in either case, so the blanks before the name end where it starts.
  have hword : ∀ char ∈ word, Blank.isBlank char = false := by
    intro char hchar
    have hlower : char.toLower ∈ scheme.toList.map Char.toLower :=
      hcase ▸ List.mem_map_of_mem hchar
    obtain ⟨letter, hletter, hsame⟩ := List.mem_map.mp hlower
    rw [← Blank.isBlank_toLower, ← hsame, Blank.isBlank_toLower]
    exact hblank letter hletter
  have hspace : ' ' ∉ word := fun hmem => absurd (hword _ hmem) (by decide)
  have hrest : Blank.StripsTo Blank.isBlank (gap ++ token) token :=
    ⟨⟨gap, [], by simp, hgap, by simp⟩, htoken.first, htoken.last⟩
  have hstrips : Blank.StripsTo Blank.isBlank value.toList (word ++ ' ' :: (gap ++ token)) := by
    refine ⟨⟨before, after, hspelled, hbefore, hafter⟩, ?_, ?_⟩
    · cases word with
      | nil => simp [hne] at hcase
      | cons letter word => simpa using hword letter List.mem_cons_self
    · have hlast : (word ++ ' ' :: (gap ++ token)).getLast? = token.getLast? := by
        rw [← List.cons_append, ← List.append_assoc,
          List.getLast?_append_of_ne_nil _ htoken.ne_nil]
      rw [hlast]
      exact htoken.last
  exact extractBearer_of_stripsTo hvalue hstrips hspace (lower_eq_of_map_toLower hcase) hrest
    htoken.ne_nil

/-- An extractor for a scheme of printable characters finds every token that is presented in its
field under this scheme, unless there is a space in the name of the scheme.  An extractor is made
for such a name as well, but it refuses every request, as one without a token. -/
theorem bearer_finds_token (hmade : makeBearer field scheme = .ok extractor)
    (hprintable : ∀ char ∈ scheme.toList, IsPrintable char) :
    (' ' ∉ scheme.toList → ∀ (request : Http.Request) (value token : String),
      request.field? field = some value → Presents scheme.toList token.toList value.toList →
        IsToken token.toList → extract request extractor = pure (.text token)) ∧
    (' ' ∈ scheme.toList → ∀ request : Http.Request, ∃ message,
      (extract request extractor).outcome = .error (.refused (.missing message))) := by
  obtain ⟨-, hscheme, rfl⟩ := makeBearer_eq_ok_iff.mp hmade
  constructor
  · intro hspace request value token hvalue hpresents htoken
    have hblank : ∀ char ∈ scheme.toList, Blank.isBlank char = false := fun char hchar =>
      (hprintable char hchar).isBlank_eq_false fun heq => hspace (heq ▸ hchar)
    have hne : scheme.toList ≠ [] := by
      intro hnil
      simp [isBlankText, hnil] at hscheme
    rw [extract, extractBearer_of_presents hne hblank hvalue hpresents htoken,
      String.ofList_toList]
    rfl
  · intro hspace request
    obtain ⟨message, hmessage⟩ : ∃ message, (extractBearer field scheme request).outcome =
        .error (.refused (.missing message)) := extractBearer_of_space hspace request
    refine ⟨message, ?_⟩
    rw [extract, Traced.outcome_bind, hmessage]
    rfl

private def requestWith (value : String) : Http.Request := ⟨[("Authorization", value)], "/me"⟩

private theorem field?_requestWith (value : String) :
    (requestWith value).field? "authorization" = some value := by
  have hkey : (Http.fieldKey "Authorization" == Http.fieldKey "authorization") = true := by decide
  exact Http.Request.field?_of_single (by decide) (by simp [requestWith, hkey])

private theorem makeBearer_basic {scheme : String} (h : isBlankText scheme = false) :
    makeBearer "authorization" scheme = .ok (.bearer "authorization" scheme) :=
  makeBearer_eq_ok_iff.mpr ⟨by decide, h, rfl⟩

private theorem isPrintable_of_all {text : List Char}
    (h : text.all (fun char => 32 ≤ char.toNat && char.toNat ≤ 126) = true) :
    ∀ char ∈ text, IsPrintable char := by
  simpa [IsPrintable] using h

private theorem presents_basicAuth :
    Presents "Basic Auth".toList "ab".toList "Basic Auth ab".toList :=
  ⟨[], "Basic Auth".toList, [], [], by decide, by decide, by simp⟩

theorem bearer_finds_token_of_basic :
    extract (requestWith "\t baSIC  a  b ") (.bearer "authorization" "Basic") =
        pure (.text "a  b") ∧
      ∃ message,
        (extract (requestWith "Basic Auth ab") (.bearer "authorization" "Basic Auth")).outcome =
          .error (.refused (.missing message)) := by
  constructor
  · have hpresents : Presents "Basic".toList "a  b".toList "\t baSIC  a  b ".toList :=
      ⟨['\t', ' '], "baSIC".toList, [' '], [' '], by decide, by decide, by simp; decide⟩
    have htoken : IsToken "a  b".toList := ⟨by decide, by simp; decide, by simp; decide⟩
    exact (bearer_finds_token (makeBearer_basic (by decide)) (isPrintable_of_all (by decide))).1
      (by decide) _ _ _ (field?_requestWith _) hpresents htoken
  · exact (bearer_finds_token (makeBearer_basic (by decide)) (isPrintable_of_all (by decide))).2
      (by decide) _

/-- An extractor is made for the name of a scheme with a space, and does not find a token that is
presented under this very name. -/
theorem not_every_bearer_finds :
    makeBearer "authorization" "Basic Auth" = .ok (.bearer "authorization" "Basic Auth") ∧
    (∀ char ∈ "Basic Auth".toList, IsPrintable char) ∧
    (requestWith "Basic Auth ab").field? "authorization" = some "Basic Auth ab" ∧
    Presents "Basic Auth".toList "ab".toList "Basic Auth ab".toList ∧
    IsToken "ab".toList ∧
    (extract (requestWith "Basic Auth ab") (.bearer "authorization" "Basic Auth")).outcome ≠
      .ok (.text "ab") := by
  refine ⟨makeBearer_basic (by decide), isPrintable_of_all (by decide), field?_requestWith _,
    presents_basicAuth, ⟨by decide, by simp; decide, by simp; decide⟩, ?_⟩
  obtain ⟨message, hmessage⟩ : ∃ message,
      (extractBearer "authorization" "Basic Auth" (requestWith "Basic Auth ab")).outcome =
        .error (.refused (.missing message)) := extractBearer_of_space (by decide) _
  rw [extract, Traced.outcome_bind, hmessage]
  simp [bind, Except.bind]

end Extractor

end SignedToken
