import Mathlib
import SignedToken.Secret

/-!
# Markers of blocks

A marker is a word and a label between dashes.  Its label can be told from where
it starts, so a search that remembers where the last marker with each label ended
finds the end of a block, wherever the block stands and whatever is around it.
-/

namespace SignedToken.Secret

variable {word label bytes rest : Bytes} {length : Nat}

/-- The spelling of a marker; the bytes next to the words may be blanks. -/
def marker (first : Byte) (word label : Bytes) (last : Byte) : Bytes :=
  dashes ++ [first] ++ word ++ label ++ [last] ++ dashes

theorem after?_eq_some_iff {text : Bytes} :
    after? text bytes = some rest ↔ bytes = text ++ rest := by
  rw [after?]
  by_cases hprefix : text.isPrefixOf bytes
  · obtain ⟨after, rfl⟩ := List.isPrefixOf_iff_prefix.mp hprefix
    simp
  · rw [if_neg hprefix]
    refine iff_of_false (by simp) ?_
    rintro rfl
    exact hprefix (List.isPrefixOf_iff_prefix.mpr (List.prefix_append _ _))

theorem afterClosing?_eq_some_iff :
    afterClosing? bytes = some rest ↔
      ∃ last, isDashOrBlank last = true ∧ bytes = [last] ++ dashes ++ rest := by
  cases bytes with
  | nil => simp [afterClosing?]
  | cons byte bytes =>
      by_cases hbyte : isDashOrBlank byte = true
      · simp [afterClosing?, hbyte, after?_eq_some_iff]
      · simp [afterClosing?, hbyte]

theorem afterOpening?_eq_some_iff :
    afterOpening? bytes = some rest ↔
      ∃ first, isDashOrBlank first = true ∧ bytes = dashes ++ [first] ++ rest := by
  simp only [afterOpening?, Option.bind_eq_bind, Option.bind_eq_some_iff, after?_eq_some_iff]
  constructor
  · rintro ⟨_ | ⟨first, further⟩, rfl, h⟩
    · cases h
    · dsimp only at h
      split_ifs at h with hfirst
      cases h
      exact ⟨first, hfirst, by simp⟩
  · rintro ⟨first, hfirst, rfl⟩
    exact ⟨first :: rest, by simp, if_pos hfirst⟩

/-- A label has no dashes and does not end with a blank. -/
theorem blockLabels_plain : ∀ label ∈ blockLabels, 45 ∉ label ∧ label.getLast? ≠ some 32 := by
  decide

/-- Up to the first dash there is the label, and the blank if it is followed by one. -/
private theorem exists_takeWhile_eq {last : Byte} (hlabel : 45 ∉ label)
    (hlast : isDashOrBlank last = true) (rest : Bytes) :
    ∃ blank, blank ∈ ([[], [32]] : List Bytes) ∧
      (label ++ [last] ++ dashes ++ rest).takeWhile (· != 45) = label ++ blank := by
  have hplain : ∀ byte ∈ label, (byte != 45) = true := by
    intro byte hbyte
    have hne : byte ≠ 45 := fun heq => hlabel (heq ▸ hbyte)
    simpa using hne
  rw [List.append_assoc, List.append_assoc, List.takeWhile_append_of_pos hplain]
  obtain rfl | rfl : last = 45 ∨ last = 32 := by simpa [isDashOrBlank] using hlast
  · exact ⟨[], by simp, by simp⟩
  · exact ⟨[32], by simp, by simp [dashes, Bytes.ofAscii]⟩

theorem label_unique {other further : Bytes} {last otherLast : Byte} (hlabel : label ∈ blockLabels)
    (hother : other ∈ blockLabels) (hlast : isDashOrBlank last = true)
    (hotherLast : isDashOrBlank otherLast = true)
    (h : label ++ [last] ++ dashes ++ rest = other ++ [otherLast] ++ dashes ++ further) :
    label = other := by
  obtain ⟨hplain, hend⟩ := blockLabels_plain label hlabel
  obtain ⟨hotherPlain, hotherEnd⟩ := blockLabels_plain other hother
  obtain ⟨blank, hblank, htake⟩ := exists_takeWhile_eq hplain hlast rest
  obtain ⟨otherBlank, hotherBlank, hotherTake⟩ :=
    exists_takeWhile_eq hotherPlain hotherLast further
  have heq : label ++ blank = other ++ otherBlank := by rw [← htake, h, hotherTake]
  simp only [List.mem_cons, List.not_mem_nil, or_false] at hblank hotherBlank
  obtain rfl | rfl := hblank <;> obtain rfl | rfl := hotherBlank
  · simpa using heq
  · rw [List.append_nil] at heq
    exact absurd (by simp [heq]) hend
  · rw [List.append_nil] at heq
    exact absurd (by simp [← heq]) hotherEnd
  · exact List.append_cancel_right heq

/-- How the label is looked for, once the word is passed. -/
private def labelAt? (bytes : Bytes) (length : Nat) (label : Bytes) : Option (Bytes × Nat) := do
  let rest ← after? label bytes >>= afterClosing?
  some (label, length - rest.length)

private theorem labelAt?_eq_some_iff {found : Bytes × Nat} :
    labelAt? bytes length label = some found ↔
      ∃ last rest, isDashOrBlank last = true ∧ bytes = label ++ [last] ++ dashes ++ rest ∧
        found = (label, length - rest.length) := by
  simp only [labelAt?, Option.bind_eq_bind, Option.bind_eq_some_iff, after?_eq_some_iff,
    afterClosing?_eq_some_iff, Option.some.injEq]
  constructor
  · rintro ⟨rest, ⟨after, rfl, last, hlast, rfl⟩, rfl⟩
    exact ⟨last, rest, hlast, by simp, rfl⟩
  · rintro ⟨last, rest, hlast, rfl, rfl⟩
    exact ⟨rest, ⟨[last] ++ dashes ++ rest, by simp, last, hlast, rfl⟩, rfl⟩

/-- The first label that fits is the only one. -/
private theorem findSome?_labelAt?_eq_some_iff {found : Bytes × Nat} :
    blockLabels.findSome? (labelAt? bytes length) = some found ↔
      ∃ label ∈ blockLabels, labelAt? bytes length label = some found := by
  refine ⟨List.exists_of_findSome?_eq_some, ?_⟩
  rintro ⟨label, hlabel, hfound⟩
  have hsome : (blockLabels.findSome? (labelAt? bytes length)).isSome = true :=
    List.findSome?_isSome_iff.mpr ⟨label, hlabel, by rw [hfound]; rfl⟩
  obtain ⟨first, hfirst⟩ := Option.isSome_iff_exists.mp hsome
  obtain ⟨other, hother, hotherFound⟩ := List.exists_of_findSome?_eq_some hfirst
  obtain ⟨last, rest, hlast, hrest, -⟩ := labelAt?_eq_some_iff.mp hfound
  obtain ⟨otherLast, further, hotherLast, hfurther, -⟩ := labelAt?_eq_some_iff.mp hotherFound
  have hsame := label_unique hlabel hother hlast hotherLast (hrest.symm.trans hfurther)
  rw [hfirst, ← hotherFound, ← hsame, hfound]

theorem markerAt?_eq_some_iff :
    markerAt? word bytes = some (label, length) ↔
      label ∈ blockLabels ∧ ∃ first last rest, isDashOrBlank first = true ∧
        isDashOrBlank last = true ∧ bytes = marker first word label last ++ rest ∧
        length = (marker first word label last).length := by
  have hmarker : markerAt? word bytes = (afterOpening? bytes >>= after? word) >>= fun rest =>
      blockLabels.findSome? (labelAt? rest bytes.length) := rfl
  simp only [hmarker, Option.bind_eq_bind, Option.bind_eq_some_iff, afterOpening?_eq_some_iff,
    after?_eq_some_iff, findSome?_labelAt?_eq_some_iff, labelAt?_eq_some_iff, Prod.mk.injEq]
  constructor
  · rintro ⟨_, ⟨_, ⟨first, hfirst, rfl⟩, rfl⟩, _, hlabel, last, rest, hlast, rfl, rfl, rfl⟩
    refine ⟨hlabel, first, last, rest, hfirst, hlast, by simp [marker], ?_⟩
    simp [marker]
    omega
  · rintro ⟨hlabel, first, last, rest, hfirst, hlast, rfl, rfl⟩
    refine ⟨label ++ [last] ++ dashes ++ rest, ⟨word ++ (label ++ [last] ++ dashes ++ rest),
      ⟨first, hfirst, by simp [marker]⟩, rfl⟩, label, hlabel, last, rest, hlast, rfl, rfl, ?_⟩
    simp [marker]
    omega

/-- No marker has both words: their second letters differ. -/
theorem markerAt?_beginWord_of_endWord {found : Bytes × Nat}
    (h : markerAt? endWord bytes = some found) : markerAt? beginWord bytes = none := by
  by_contra hbegins
  obtain ⟨other, hother⟩ := Option.ne_none_iff_exists'.mp hbegins
  obtain ⟨-, first, last, rest, -, -, rfl, -⟩ := markerAt?_eq_some_iff.mp h
  obtain ⟨-, otherFirst, otherLast, further, -, -, heq, -⟩ := markerAt?_eq_some_iff.mp hother
  simp [marker, dashes, beginWord, endWord, Bytes.ofAscii] at heq

/-! ## The search -/

variable {position : Nat} {begun : List (Bytes × Nat)} {front : Bytes}

/-- Bytes in front do not keep a block from being found that is found whatever has begun. -/
theorem blockEnds_append (h : ∀ position begun, blockEnds position begun rest = true)
    (front : Bytes) (position : Nat) (begun : List (Bytes × Nat)) :
    blockEnds position begun (front ++ rest) = true := by
  induction front generalizing position begun with
  | nil => exact h position begun
  | cons byte front ih =>
      rw [List.cons_append, blockEnds]
      simp [ih]

/-- Where the last marker so far with a label ended. -/
def lastEnd? (begun : List (Bytes × Nat)) (label : Bytes) : Option Nat :=
  (begun.find? (·.1 == label)).map (·.2)

@[simp]
theorem lastEnd?_cons_self (label : Bytes) (place : Nat) (begun : List (Bytes × Nat)) :
    lastEnd? ((label, place) :: begun) label = some place := by
  simp [lastEnd?]

theorem lastEnd?_cons_of_ne {other : Bytes} (h : other ≠ label) (place : Nat)
    (begun : List (Bytes × Nat)) :
    lastEnd? ((other, place) :: begun) label = lastEnd? begun label := by
  simp [lastEnd?, h]

/-- Every marker that begins a block with a label in some bytes ends in them as well, and not at
their end. -/
def BeginsWithin (label front rest : Bytes) : Prop :=
  ∀ part length, part <:+ front → part ≠ [] →
    markerAt? beginWord (part ++ rest) = some (label, length) → length < part.length

theorem BeginsWithin.tail {byte : Byte} (h : BeginsWithin label (byte :: front) rest) :
    BeginsWithin label front rest :=
  fun part length hpart => h part length (hpart.trans (List.suffix_cons byte front))

/-- The markers that have begun, once the bytes at a position are looked at. -/
def begunAt (position : Nat) (begun : List (Bytes × Nat)) (bytes : Bytes) : List (Bytes × Nat) :=
  match markerAt? beginWord bytes with
  | some (label, length) => (label, position + length) :: begun
  | none => begun

theorem blockEnds_cons (position : Nat) (begun : List (Bytes × Nat)) (byte : Byte) (rest : Bytes) :
    blockEnds position begun (byte :: rest) =
      (((markerAt? endWord (byte :: rest)).any fun found =>
          (lastEnd? (begunAt position begun (byte :: rest)) found.1).any
            (decide <| · < position)) ||
        blockEnds (position + 1) (begunAt position begun (byte :: rest)) rest) := by
  rw [blockEnds]
  cases markerAt? endWord (byte :: rest) <;> rfl

/-- A marker that begins in front of the end of a block ends there too. -/
private theorem exists_lastEnd_begunAt {byte : Byte}
    (hwithin : BeginsWithin label (byte :: front) rest)
    (hlast : ∃ place, lastEnd? begun label = some place ∧
      place < position + (byte :: front).length) :
    ∃ place, lastEnd? (begunAt position begun (byte :: (front ++ rest))) label = some place ∧
      place < position + 1 + front.length := by
  obtain ⟨place, hplace, hbefore⟩ := hlast
  rw [List.length_cons] at hbefore
  cases hmarker : markerAt? beginWord (byte :: (front ++ rest)) with
  | none =>
      refine ⟨place, ?_, by omega⟩
      rw [begunAt, hmarker]
      exact hplace
  | some found =>
      obtain ⟨other, length⟩ := found
      by_cases hother : other = label
      · subst hother
        have hlength := hwithin _ _ List.suffix_rfl (List.cons_ne_nil _ _) hmarker
        rw [List.length_cons] at hlength
        refine ⟨position + length, ?_, by omega⟩
        rw [begunAt, hmarker, lastEnd?_cons_self]
      · refine ⟨place, ?_, by omega⟩
        rw [begunAt, hmarker, lastEnd?_cons_of_ne hother]
        exact hplace

/-- The induction is on the bytes up to the end of the block: whichever marker with its label was
the last one to begin, it ended before. -/
theorem blockEnds_of_lastEnd {found : Nat} (hend : markerAt? endWord rest = some (label, found))
    (hwithin : BeginsWithin label front rest)
    (hlast : ∃ place, lastEnd? begun label = some place ∧ place < position + front.length) :
    blockEnds position begun (front ++ rest) = true := by
  induction front generalizing position begun with
  | nil =>
      obtain ⟨place, hplace, hbefore⟩ := hlast
      have hbegun : begunAt position begun rest = begun := by
        rw [begunAt, markerAt?_beginWord_of_endWord hend]
      cases rest with
      | nil =>
          obtain ⟨-, first, last, rest, -, -, hnil, -⟩ := markerAt?_eq_some_iff.mp hend
          simp [marker] at hnil
      | cons byte rest =>
          rw [List.nil_append, blockEnds_cons, hbegun, hend]
          simpa [hplace] using .inl hbefore
  | cons byte front ih =>
      rw [List.cons_append, blockEnds_cons, ih hwithin.tail (exists_lastEnd_begunAt hwithin hlast),
        Bool.or_true]

/-- A block is found where it stands if no other block with its label begins inside and does not
end there. -/
theorem blockEnds_of_stands {found : Nat}
    (hbegin : markerAt? beginWord (front ++ rest) = some (label, length))
    (hend : markerAt? endWord rest = some (label, found)) (hwithin : BeginsWithin label front rest)
    (before : Bytes) : blockEnds 0 [] (before ++ (front ++ rest)) = true := by
  refine blockEnds_append (fun position begun => ?_) before 0 []
  cases front with
  | nil =>
      rw [List.nil_append, markerAt?_beginWord_of_endWord hend] at hbegin
      cases hbegin
  | cons byte front =>
      have hlength := hwithin _ _ List.suffix_rfl (List.cons_ne_nil _ _) hbegin
      rw [List.length_cons] at hlength
      rw [List.cons_append, blockEnds_cons, blockEnds_of_lastEnd hend hwithin.tail, Bool.or_true]
      refine ⟨position + length, ?_, by omega⟩
      rw [begunAt, ← List.cons_append, hbegin, lastEnd?_cons_self]

end SignedToken.Secret
