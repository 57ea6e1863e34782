import Mathlib
import SignedToken.Text.Blank
import SignedToken.Text.Search

/-!
# Pieces between separators

A piece of a list reaches from one separator, or from the start, to the next one
or to the end.  What is left of a piece without the blanks at its ends can be
told from the piece alone.
-/

namespace SignedToken

namespace Search

variable {α : Type} {separates : α → Bool}

theorem eq_false_of_mem_head?_dropWhile {inClass : α → Bool} {items : List α} {first : α}
    (h : first ∈ (items.dropWhile inClass).head?) : inClass first = false := by
  have hnot := List.head?_dropWhile_not inClass items
  rw [Option.mem_def.mp h] at hnot
  exact hnot

theorem takeWhile_append_of_forall {inClass : α → Bool} {left rest : List α}
    (h : ∀ item ∈ left, inClass item = true) (hrest : ∀ first ∈ rest.head?, inClass first = false) :
    (left ++ rest).takeWhile inClass = left := by
  rw [List.takeWhile_append_of_pos h]
  cases rest with
  | nil => simp
  | cons first rest => simp [hrest first (by simp)]

theorem dropWhile_append_of_forall {inClass : α → Bool} {left rest : List α}
    (h : ∀ item ∈ left, inClass item = true) (hrest : ∀ first ∈ rest.head?, inClass first = false) :
    (left ++ rest).dropWhile inClass = rest := by
  rw [List.dropWhile_append_of_pos h]
  cases rest with
  | nil => rfl
  | cons first rest => simp [hrest first (by simp)]

/-- A part of a list without separators, between two separators or the ends of the list. -/
def IsPiece (separates : α → Bool) (piece items : List α) : Prop :=
  (∀ item ∈ piece, separates item = false) ∧
    ∃ before after, items = before ++ piece ++ after ∧
      (∀ last ∈ before.getLast?, separates last = true) ∧
      ∀ first ∈ after.head?, separates first = true

theorem splitAt_ne_nil (separates : α → Bool) (items : List α) : splitAt separates items ≠ [] := by
  induction items with
  | nil => simp [splitAt]
  | cons item rest ih =>
      rw [splitAt]
      split_ifs
      · exact List.cons_ne_nil _ _
      · split
        · exact List.cons_ne_nil _ _
        · exact List.cons_ne_nil _ _

theorem splitAt_of_forall {items : List α} (h : ∀ item ∈ items, separates item = false) :
    splitAt separates items = [items] := by
  induction items with
  | nil => rfl
  | cons item rest ih =>
      obtain ⟨hitem, hrest⟩ := List.forall_mem_cons.mp h
      simp [splitAt, hitem, ih hrest]

/-- A separator divides a list into two that are split apart. -/
theorem splitAt_append_cons {separator : α} (h : separates separator = true)
    (before after : List α) :
    splitAt separates (before ++ separator :: after) =
      splitAt separates before ++ splitAt separates after := by
  induction before with
  | nil => simp [splitAt, h]
  | cons item before ih =>
      by_cases hitem : separates item = true
      · simp [splitAt, hitem, ih]
      · obtain ⟨piece, others, hpieces⟩ := List.exists_cons_of_ne_nil
          (splitAt_ne_nil separates before)
        simp [splitAt, hitem, ih, hpieces]

/-- A list begins with a piece, and if there is more, a separator follows. -/
private theorem exists_first_piece (separates : α → Bool) (items : List α) :
    ∃ piece, (∀ item ∈ piece, separates item = false) ∧
      (items = piece ∨ ∃ separator rest, separates separator = true ∧
        items = piece ++ separator :: rest) := by
  induction items with
  | nil => exact ⟨[], by simp, .inl rfl⟩
  | cons item rest ih =>
      by_cases hitem : separates item = true
      · exact ⟨[], by simp, .inr ⟨item, rest, hitem, rfl⟩⟩
      · rw [Bool.not_eq_true] at hitem
        obtain ⟨piece, hpiece, rfl | ⟨separator, others, hseparator, rfl⟩⟩ := ih
        · exact ⟨item :: rest, List.forall_mem_cons.mpr ⟨hitem, hpiece⟩, .inl rfl⟩
        · exact ⟨item :: piece, List.forall_mem_cons.mpr ⟨hitem, hpiece⟩,
            .inr ⟨separator, others, hseparator, rfl⟩⟩

theorem IsPiece.append_cons {piece rest : List α} {separator : α}
    (h : IsPiece separates piece rest) (hseparator : separates separator = true)
    (start : List α) : IsPiece separates piece (start ++ separator :: rest) := by
  obtain ⟨hpiece, before, after, rfl, hbefore, hafter⟩ := h
  refine ⟨hpiece, start ++ separator :: before, after, by simp, ?_, hafter⟩
  cases before with
  | nil => simpa using hseparator
  | cons item before => simpa using hbefore

/-- The pieces after the first one are pieces of what follows the first separator. -/
private theorem isPiece_of_mem {piece items : List α} (h : piece ∈ splitAt separates items) :
    IsPiece separates piece items := by
  induction hlength : items.length using Nat.strong_induction_on generalizing items with
  | _ length ih =>
      obtain ⟨first, hfirst, rfl | ⟨separator, rest, hseparator, rfl⟩⟩ :=
        exists_first_piece separates items
      · rw [splitAt_of_forall hfirst, List.mem_singleton] at h
        subst h
        exact ⟨hfirst, [], [], by simp, by simp, by simp⟩
      · rw [splitAt_append_cons hseparator, splitAt_of_forall hfirst, List.singleton_append,
          List.mem_cons] at h
        obtain rfl | hrest := h
        · exact ⟨hfirst, [], separator :: rest, by simp, by simp, by simpa using hseparator⟩
        · have hshorter : rest.length < length := by
            rw [← hlength, List.length_append, List.length_cons]
            omega
          exact (ih rest.length hshorter hrest rfl).append_cons hseparator first

private theorem mem_of_isPiece {piece items : List α} (h : IsPiece separates piece items) :
    piece ∈ splitAt separates items := by
  obtain ⟨hpiece, before, after, rfl, hbefore, hafter⟩ := h
  have hend : piece ∈ splitAt separates (piece ++ after) := by
    cases after with
    | nil => simp [splitAt_of_forall hpiece]
    | cons separator after =>
        rw [splitAt_append_cons (hafter separator (by simp)), splitAt_of_forall hpiece]
        simp
  obtain rfl | ⟨start, separator, rfl⟩ := List.eq_nil_or_concat' before
  · simpa using hend
  · have hseparator : separates separator = true := hbefore separator (by simp)
    have hitems : start ++ [separator] ++ piece ++ after =
        start ++ separator :: (piece ++ after) := by simp
    rw [hitems, splitAt_append_cons hseparator]
    exact List.mem_append_right _ hend

theorem mem_splitAt_iff {piece items : List α} :
    piece ∈ splitAt separates items ↔ IsPiece separates piece items :=
  ⟨isPiece_of_mem, mem_of_isPiece⟩

end Search

namespace Blank

variable {α : Type} {inClass : α → Bool} {items stripped : List α}

/-- What a list holds between items of a class at its ends. -/
def StripsTo (inClass : α → Bool) (items stripped : List α) : Prop :=
  (∃ left right, items = left ++ stripped ++ right ∧ (∀ item ∈ left, inClass item = true) ∧
      ∀ item ∈ right, inClass item = true) ∧
    (∀ first ∈ stripped.head?, inClass first = false) ∧
    ∀ last ∈ stripped.getLast?, inClass last = false

theorem trim_of_stripsTo (h : StripsTo inClass items stripped) : trim inClass items = stripped := by
  obtain ⟨⟨left, right, rfl, hleft, hright⟩, hfirst, hlast⟩ := h
  have hreverse : ∀ item ∈ right.reverse, inClass item = true := by simpa using hright
  have hhead : ∀ first ∈ stripped.reverse.head?, inClass first = false := by
    simpa [List.head?_reverse] using hlast
  have hback : ((stripped ++ right).reverse.dropWhile inClass).reverse = stripped := by
    rw [List.reverse_append, Search.dropWhile_append_of_forall hreverse hhead,
      List.reverse_reverse]
  rw [trim, List.append_assoc]
  cases stripped with
  | nil =>
      have hall : ∀ item ∈ left ++ right, inClass item = true := by
        simpa [or_imp, forall_and] using ⟨hleft, hright⟩
      rw [List.nil_append, List.dropWhile_eq_nil_iff.mpr hall]
      rfl
  | cons first rest =>
      rw [Search.dropWhile_append_of_forall hleft (by simpa using hfirst), hback]

theorem stripsTo_trim (inClass : α → Bool) (items : List α) :
    StripsTo inClass items (trim inClass items) := by
  have hback : items.dropWhile inClass =
      trim inClass items ++ ((items.dropWhile inClass).reverse.takeWhile inClass).reverse := by
    rw [trim, ← List.reverse_append, List.takeWhile_append_dropWhile, List.reverse_reverse]
  have hitems : items = items.takeWhile inClass ++ trim inClass items ++
      ((items.dropWhile inClass).reverse.takeWhile inClass).reverse := by
    rw [List.append_assoc, ← hback, List.takeWhile_append_dropWhile]
  refine ⟨⟨_, _, hitems, ?_, ?_⟩, ?_, ?_⟩
  · exact fun item hitem => List.mem_takeWhile_imp hitem
  · exact fun item hitem => List.mem_takeWhile_imp (List.mem_reverse.mp hitem)
  · intro first hfirst
    apply Search.eq_false_of_mem_head?_dropWhile
    rw [hback, List.head?_append, Option.mem_def.mp hfirst]
    rfl
  · intro last hlast
    rw [trim, List.getLast?_reverse] at hlast
    exact Search.eq_false_of_mem_head?_dropWhile hlast

theorem trim_eq_iff : trim inClass items = stripped ↔ StripsTo inClass items stripped := by
  constructor
  · rintro rfl
    exact stripsTo_trim inClass items
  · exact trim_of_stripsTo

end Blank

end SignedToken
