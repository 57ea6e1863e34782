import Mathlib
import SignedToken.Text.Search

/-!
# Breaking a list at a mark

A list breaks at the first occurrence of an item exactly if what stands before
does not contain the item; from the other end the same holds of what stands
after it.
-/

namespace SignedToken.Search

variable {α : Type} [BEq α] [LawfulBEq α]

@[simp]
theorem breakAt?_cons_self (mark : α) (rest : List α) :
    breakAt? [mark] (mark :: rest) = some ([], rest) := by
  simp [breakAt?]

theorem breakAt?_cons_of_ne {mark item : α} (h : mark ≠ item) (rest : List α) :
    breakAt? [mark] (item :: rest) =
      (breakAt? [mark] rest).map fun pieces => (item :: pieces.1, pieces.2) := by
  have hprefix : [mark].isPrefixOf (item :: rest) = false := by
    simp [List.isPrefixOf, h]
  simp only [breakAt?, hprefix, Bool.false_eq_true, if_false]

theorem breakAt?_singleton_eq_some_iff {mark : α} {items before after : List α} :
    breakAt? [mark] items = some (before, after) ↔
      items = before ++ mark :: after ∧ mark ∉ before := by
  induction items generalizing before with
  | nil => simp [breakAt?]
  | cons item rest ih =>
      by_cases hitem : mark = item
      · subst hitem
        cases before with
        | nil => simp [eq_comm]
        | cons first others =>
            refine iff_of_false (by simp) ?_
            rintro ⟨heq, hnot⟩
            have hfirst : mark = first := (List.cons.inj heq).1
            exact hnot (hfirst ▸ List.mem_cons_self)
      · rw [breakAt?_cons_of_ne hitem, Option.map_eq_some_iff]
        constructor
        · rintro ⟨⟨start, ending⟩, hbreak, heq⟩
          cases heq
          obtain ⟨rfl, hnot⟩ := ih.mp hbreak
          simp [hitem, hnot]
        · rintro ⟨heq, hnot⟩
          cases before with
          | nil => exact absurd (List.cons.inj heq).1.symm hitem
          | cons first others =>
              obtain ⟨rfl, hrest⟩ := List.cons.inj heq
              have hothers : mark ∉ others := fun hmem => hnot (.tail _ hmem)
              exact ⟨(others, after), ih.mpr ⟨hrest, hothers⟩, rfl⟩

theorem breakAtLast?_eq_some_iff {mark : α} {items before after : List α} :
    breakAtLast? mark items = some (before, after) ↔
      items = before ++ mark :: after ∧ mark ∉ after := by
  have hreverse :
      breakAtLast? mark items = some (before, after) ↔
        breakAt? [mark] items.reverse = some (after.reverse, before.reverse) := by
    simp only [breakAtLast?, Option.map_eq_some_iff, Prod.exists, Prod.mk.injEq]
    constructor
    · rintro ⟨start, ending, hbreak, rfl, rfl⟩
      simpa using hbreak
    · intro hbreak
      exact ⟨_, _, hbreak, by simp, by simp⟩
  rw [hreverse, breakAt?_singleton_eq_some_iff, List.reverse_eq_iff]
  simp

/-- Only one occurrence of an item is the last one. -/
theorem after_last_unique {mark : α} {before after other further : List α}
    (h : before ++ mark :: after = other ++ mark :: further) (hafter : mark ∉ after)
    (hfurther : mark ∉ further) : before = other ∧ after = further := by
  have hfirst : breakAtLast? mark (before ++ mark :: after) = some (before, after) :=
    breakAtLast?_eq_some_iff.mpr ⟨rfl, hafter⟩
  rw [breakAtLast?_eq_some_iff.mpr ⟨h, hfurther⟩] at hfirst
  cases hfirst
  exact ⟨rfl, rfl⟩

/-- The items of a mark that have come so far stand in front of the items that are still to be
looked at. -/
private theorem exists_of_runTo? {mark left done items : List α} {count : Nat}
    (h : runTo? mark left items = some count) (hmark : done ++ left = mark) :
    count ≤ items.length ∧ ∃ before, done ++ items.take count = before ++ mark := by
  induction items generalizing left done count with
  | nil =>
      cases left with
      | nil =>
          cases h
          exact ⟨Nat.zero_le _, [], by simpa using hmark⟩
      | cons expected left => cases h
  | cons item rest ih =>
      cases left with
      | nil =>
          cases h
          exact ⟨Nat.zero_le _, [], by simpa using hmark⟩
      | cons expected left =>
          rw [runTo?, Option.map_eq_some_iff] at h
          obtain ⟨further, hrun, rfl⟩ := h
          by_cases hitem : item = expected
          · subst hitem
            rw [if_pos (beq_self_eq_true item)] at hrun
            have hdone : (done ++ [item]) ++ left = mark := by simpa using hmark
            obtain ⟨hcount, before, hbefore⟩ := ih hrun hdone
            exact ⟨Nat.succ_le_succ hcount, before, by simpa using hbefore⟩
          · rw [if_neg (by simpa using hitem)] at hrun
            obtain ⟨hcount, before, hbefore⟩ := ih hrun (List.nil_append mark)
            rw [List.nil_append] at hbefore
            exact ⟨Nat.succ_le_succ hcount, done ++ item :: before, by simp [hbefore]⟩

/-- What is found in one go through a list stands there, though it need not be the first one. -/
theorem eq_of_breakAtRun? {mark items before after : List α}
    (h : breakAtRun? mark items = some (before, after)) : items = before ++ mark ++ after := by
  rw [breakAtRun?, Option.map_eq_some_iff] at h
  obtain ⟨count, hrun, hpieces⟩ := h
  obtain ⟨rfl, rfl⟩ := Prod.mk.inj hpieces
  obtain ⟨hcount, start, hstart⟩ := exists_of_runTo? hrun (List.nil_append mark)
  rw [List.nil_append] at hstart
  have hlength : count = start.length + mark.length := by
    simpa [hcount] using congrArg List.length hstart
  have hbefore : items.take (count - mark.length) = start := by
    have htake := congrArg (List.take start.length) hstart
    rw [List.take_take, List.take_left] at htake
    rw [← htake]
    congr 1
    omega
  rw [hbefore, ← hstart, List.take_append_drop]

/-- What is in front of a mark is passed over if the mark cannot start in it. -/
theorem runTo?_append_of_notMem {first : α} {mark before : List α} (h : first ∉ before)
    (rest : List α) :
    runTo? (first :: mark) (first :: mark) (before ++ rest) =
      (runTo? (first :: mark) (first :: mark) rest).map (· + before.length) := by
  induction before with
  | nil => simp
  | cons item before ih =>
      obtain ⟨hitem, hbefore⟩ : first ≠ item ∧ first ∉ before := by simpa using h
      rw [List.cons_append, runTo?, if_neg (by simpa using hitem.symm), ih hbefore,
        Option.map_map]
      congr 1

theorem runTo?_append_self (mark left rest : List α) :
    runTo? mark left (left ++ rest) = some left.length := by
  induction left with
  | nil => cases rest <;> rfl
  | cons item left ih => simp [runTo?, ih]

/-- A mark is found behind what it cannot start in. -/
theorem breakAtRun?_append {first : α} {mark before : List α} (h : first ∉ before)
    (rest : List α) :
    breakAtRun? (first :: mark) (before ++ (first :: mark) ++ rest) = some (before, rest) := by
  have hafter : (before ++ (first :: mark) ++ rest).drop
      ((first :: mark).length + before.length) = rest := by
    rw [Nat.add_comm, ← List.length_append, List.drop_left]
  have hrun : runTo? (first :: mark) (first :: mark) (before ++ (first :: mark) ++ rest) =
      some ((first :: mark).length + before.length) := by
    rw [List.append_assoc, runTo?_append_of_notMem h, runTo?_append_self]
    rfl
  rw [breakAtRun?, hrun, Option.map_some, hafter, Nat.add_sub_cancel_left, List.append_assoc,
    List.take_left]

end SignedToken.Search
