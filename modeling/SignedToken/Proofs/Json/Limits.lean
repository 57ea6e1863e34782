import Mathlib
import SignedToken.Json.Reader

/-!
# What the reader lets through

Whatever is read keeps to the rules: its integers have no more digits than the
rules allow, and its containers lie no deeper.  This is the converse of reading
back what is written, and holds of documents in any spelling.
-/

namespace SignedToken.Json

/-- A document that lies inside as many others as leave `depth` levels and keeps to the rules: its
integers have no more digits than can be read, and what has no level left is empty. -/
inductive Bounded (rules : Rules) : (depth : Nat) → Json → Prop where
  | null (depth : Nat) : Bounded rules depth .null
  | bool (depth : Nat) (value : Bool) : Bounded rules depth (.bool value)
  | int (depth : Nat) (value : Int)
      (short : (Nat.toDigits 10 value.natAbs).length ≤ rules.digits) :
      Bounded rules depth (.int value)
  | float (depth : Nat) (value : Binary64) : Bounded rules depth (.float value)
  | text (depth : Nat) (value : String) : Bounded rules depth (.text value)
  | emptyArray (depth : Nat) : Bounded rules depth (.array [])
  | array (depth : Nat) (items : List Json) (nested : ∀ item ∈ items, Bounded rules depth item) :
      Bounded rules (depth + 1) (.array items)
  | emptyObject (depth : Nat) : Bounded rules depth (.object [])
  | object (depth : Nat) (members : List (String × Json))
      (nested : ∀ member ∈ members, Bounded rules depth member.2) :
      Bounded rules (depth + 1) (.object members)

variable {rules : Rules} {fuel depth : Nat} {chars rest : List Char} {document : Json}

/-! ## Numbers -/

private theorem ofDigitChars_lt {digits : List Char} (h : ∀ char ∈ digits, char.isDigit = true) :
    ∀ start width, start < 10 ^ width →
      Nat.ofDigitChars 10 digits start < 10 ^ (width + digits.length) := by
  induction digits with
  | nil =>
      intro start width hstart
      exact hstart
  | cons digit digits ih =>
      intro start width hstart
      obtain ⟨hdigit, hdigits⟩ := List.forall_mem_cons.mp h
      have hvalue : digit.toNat - '0'.toNat < 10 := by
        have hnine : digit.toNat ≤ '9'.toNat := (Char.isDigit_iff_toNat.mp hdigit).2
        have hrange : '9'.toNat = '0'.toNat + 9 := by decide
        omega
      rw [Nat.ofDigitChars_cons, List.length_cons, Nat.add_comm digits.length, ← Nat.add_assoc]
      apply ih hdigits
      rw [Nat.pow_succ]
      omega

/-- A number that is read has no more digits than were read. -/
theorem length_toDigits_ofDigitChars_le {digits : List Char} (hne : digits ≠ [])
    (h : ∀ char ∈ digits, char.isDigit = true) :
    (Nat.toDigits 10 (Nat.ofDigitChars 10 digits 0)).length ≤ digits.length := by
  rw [Nat.length_toDigits_le_iff (by decide) (List.length_pos_of_ne_nil hne)]
  simpa using ofDigitChars_lt h 0 0 (by decide)

private theorem bounded_of_scanUnsigned {negative : Bool}
    (h : scanUnsigned rules negative chars = some (document, rest)) :
    Bounded rules depth document := by
  simp only [scanUnsigned] at h
  split at h
  · cases h
  rename_i hwhole
  simp only [Option.bind_eq_bind, Option.bind_eq_some_iff] at h
  obtain ⟨⟨fraction, afterFraction⟩, -, ⟨exponent, afterExponent⟩, -, h⟩ := h
  split at h
  · cases h
  rename_i hlimit
  split at h
  · rename_i hinteger
    have hne : chars.takeWhile Char.isDigit ≠ [] := by
      intro hnil
      simp [hnil] at hwhole
    have hshort : (chars.takeWhile Char.isDigit).length ≤ rules.digits := by
      rw [hinteger] at hlimit
      simpa using hlimit
    have hdigits : ∀ char ∈ chars.takeWhile Char.isDigit, char.isDigit = true :=
      fun char hchar => List.mem_takeWhile_imp hchar
    cases h
    refine .int _ _ (le_trans ?_ hshort)
    have hsize : ∀ size : Nat, (if negative then -(size : Int) else size).natAbs = size := by
      intro size
      cases negative <;> simp
    rw [hsize]
    exact length_toDigits_ofDigitChars_le hne hdigits
  · cases h
    exact .float _ _

private theorem bounded_of_scanScalar (h : scanScalar rules chars = some (document, rest)) :
    Bounded rules depth document := by
  rw [scanScalar] at h
  split at h
  · rename_i name value hfind
    cases h
    have hname := List.mem_of_find?_eq_some hfind
    simp only [names, List.mem_cons, Prod.mk.injEq, List.not_mem_nil, or_false] at hname
    obtain ⟨-, rfl⟩ | ⟨-, rfl⟩ | ⟨-, rfl⟩ | ⟨-, rfl⟩ | ⟨-, rfl⟩ | ⟨-, rfl⟩ := hname
    · exact .null _
    · exact .bool _ _
    · exact .bool _ _
    · exact .float _ _
    · exact .float _ _
    · exact .float _ _
  · rw [scanNumber.eq_def] at h
    split at h
    · exact bounded_of_scanUnsigned h
    · exact bounded_of_scanUnsigned h

/-! ## Containers -/

private theorem exists_of_map_ok {ε α β : Type} {result : Except ε α} {change : α → β} {value : β}
    (h : result.map change = .ok value) : ∃ found, result = .ok found ∧ change found = value := by
  cases result with
  | error failure => cases h
  | ok found => exact ⟨found, rfl, Except.ok.inj h⟩

private theorem exists_of_bind_ok {ε α β : Type} {result : Except ε α} {next : α → Except ε β}
    {value : β} (h : (result >>= next) = .ok value) :
    ∃ found, result = .ok found ∧ next found = .ok value := by
  cases result with
  | error failure => cases h
  | ok found => exact ⟨found, rfl, h⟩

/-- What a value can be read as, and what was read inside it. -/
private theorem readValue_cases
    (h : readValue rules (fuel + 1) depth chars = .ok (document, rest)) :
    document = .array [] ∨ document = .object [] ∨ (∃ content, document = .text content) ∨
      (∃ start, scanScalar rules start = some (document, rest)) ∨
      (∃ levels items start, depth = levels + 1 ∧ document = .array items ∧
        readItems rules fuel levels start = .ok (items, rest)) ∨
      ∃ levels members start, depth = levels + 1 ∧ document = .object members ∧
        readMembers rules fuel levels start = .ok (members, rest) := by
  rw [readValue] at h
  split at h
  · split at h
    · cases h
      exact .inl rfl
    · cases h
    · obtain ⟨⟨items, after⟩, hread, heq⟩ := exists_of_map_ok h
      cases heq
      exact .inr (.inr (.inr (.inr (.inl ⟨_, items, _, rfl, rfl, hread⟩))))
  · split at h
    · cases h
      exact .inr (.inl rfl)
    · cases h
    · obtain ⟨⟨members, after⟩, hread, heq⟩ := exists_of_map_ok h
      cases heq
      exact .inr (.inr (.inr (.inr (.inr ⟨_, members, _, rfl, rfl, hread⟩))))
  · cases hscan : scanText rules _ with
    | none =>
        rw [hscan] at h
        cases h
    | some found =>
        rw [hscan] at h
        cases h
        exact .inr (.inr (.inl ⟨_, rfl⟩))
  · cases hscan : scanScalar rules _ with
    | none =>
        rw [hscan] at h
        cases h
    | some found =>
        rw [hscan] at h
        cases h
        exact .inr (.inr (.inr (.inl ⟨_, hscan⟩)))

private theorem readItems_cases {items : List Json}
    (h : readItems rules (fuel + 1) depth chars = .ok (items, rest)) :
    ∃ item after others, readValue rules fuel depth chars = .ok (item, after) ∧
      items = item :: others ∧
        (others = [] ∨ ∃ start, readItems rules fuel depth start = .ok (others, rest)) := by
  rw [readItems] at h
  obtain ⟨⟨item, after⟩, hitem, h⟩ := exists_of_bind_ok h
  refine ⟨item, after, ?_⟩
  dsimp only at h
  split at h
  · obtain ⟨⟨others, ending⟩, hothers, heq⟩ := exists_of_map_ok h
    cases heq
    exact ⟨others, hitem, rfl, .inr ⟨_, hothers⟩⟩
  · cases h
    exact ⟨[], hitem, rfl, .inl rfl⟩
  · cases h

private theorem readMembers_cases {members : List (String × Json)}
    (h : readMembers rules (fuel + 1) depth chars = .ok (members, rest)) :
    ∃ name value start after others, readValue rules fuel depth start = .ok (value, after) ∧
      members = (name, value) :: others ∧
        (others = [] ∨ ∃ start, readMembers rules fuel depth start = .ok (others, rest)) := by
  rw [readMembers] at h
  obtain ⟨⟨name, start⟩, -, h⟩ := exists_of_bind_ok h
  obtain ⟨⟨value, after⟩, hvalue, h⟩ := exists_of_bind_ok h
  refine ⟨name, value, start, after, ?_⟩
  dsimp only at h
  split at h
  · obtain ⟨⟨others, ending⟩, hothers, heq⟩ := exists_of_map_ok h
    cases heq
    exact ⟨others, hvalue, rfl, .inr ⟨_, hothers⟩⟩
  · cases h
    exact ⟨[], hvalue, rfl, .inl rfl⟩
  · cases h

/-! ## Documents -/

/-- The levels that are left go down by one from a container to what is inside it, and fuel only
bounds how long reading goes on. -/
private theorem bounded_of_read (rules : Rules) (fuel : Nat) :
    (∀ depth chars document rest, readValue rules fuel depth chars = .ok (document, rest) →
      Bounded rules depth document) ∧
    (∀ depth chars items rest, readItems rules fuel depth chars = .ok (items, rest) →
      ∀ item ∈ items, Bounded rules depth item) ∧
    (∀ depth chars members rest, readMembers rules fuel depth chars = .ok (members, rest) →
      ∀ member ∈ members, Bounded rules depth member.2) := by
  induction fuel with
  | zero =>
      refine ⟨?_, ?_, ?_⟩
      · intro depth chars document rest h
        cases h
      · intro depth chars items rest h
        cases h
      · intro depth chars members rest h
        cases h
  | succ fuel ih =>
      obtain ⟨hvalue, hitems, hmembers⟩ := ih
      refine ⟨?_, ?_, ?_⟩
      · intro depth chars document rest h
        obtain rfl | rfl | ⟨content, rfl⟩ | ⟨start, hscan⟩ |
          ⟨levels, items, start, rfl, rfl, hread⟩ |
          ⟨levels, members, start, rfl, rfl, hread⟩ := readValue_cases h
        · exact .emptyArray _
        · exact .emptyObject _
        · exact .text _ _
        · exact bounded_of_scanScalar hscan
        · exact .array _ _ (hitems _ _ _ _ hread)
        · exact .object _ _ (hmembers _ _ _ _ hread)
      · intro depth chars items rest h
        obtain ⟨item, after, others, hitem, rfl, hothers⟩ := readItems_cases h
        refine List.forall_mem_cons.mpr ⟨hvalue _ _ _ _ hitem, ?_⟩
        obtain rfl | ⟨start, hread⟩ := hothers
        · exact fun other hother => absurd hother List.not_mem_nil
        · exact hitems _ _ _ _ hread
      · intro depth chars members rest h
        obtain ⟨name, value, start, after, others, hread, rfl, hothers⟩ := readMembers_cases h
        refine List.forall_mem_cons.mpr ⟨hvalue _ _ _ _ hread, ?_⟩
        obtain rfl | ⟨start, hread⟩ := hothers
        · exact fun other hother => absurd hother List.not_mem_nil
        · exact hmembers _ _ _ _ hread

/-- Every document that a byte string spells keeps to the rules. -/
theorem bounded_of_readBytes {bytes : Bytes} (h : readBytes rules bytes = some document) :
    Bounded rules rules.depth document := by
  rw [readBytes] at h
  split at h
  · rename_i content _
    simp only [read, readText] at h
    split at h
    · rename_i value rest hread
      split at h
      · cases h
        exact (bounded_of_read rules _).1 _ _ _ _ hread
      · cases h
    · cases h
  · cases h

end SignedToken.Json
