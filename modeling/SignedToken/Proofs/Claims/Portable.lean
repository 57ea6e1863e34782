import SignedToken.Claims.Segment
import SignedToken.Proofs.Base64.Spelling
import SignedToken.Proofs.Json.Document

/-!
# Claims that survive a segment

Claims are portable if they are of the kinds of JSON, without doubles, and stay
within the limits of the reader.  The segment of portable claims holds exactly
these claims, with the entries of each dict in their order.
-/

namespace SignedToken

/-! ## Repeated names -/

namespace Json

private theorem put_of_new {κ ν : Type} [BEq κ] [LawfulBEq κ] {key : κ} {value : ν}
    {done : List (κ × ν)} (h : key ∉ done.map (·.1)) :
    put (· == ·) key value done = done ++ [(key, value)] := by
  induction done with
  | nil => rfl
  | cons entry rest ih =>
      simp only [List.map_cons, List.mem_cons, not_or] at h
      have hne : (entry.1 == key) = false := beq_eq_false_iff_ne.mpr (Ne.symm h.1)
      simp [put, hne, ih h.2]

private theorem foldl_put_of_nodup {κ ν : Type} [BEq κ] [LawfulBEq κ] {entries : List (κ × ν)} :
    ∀ done : List (κ × ν), ((done ++ entries).map (·.1)).Nodup →
      entries.foldl (fun done entry => put (· == ·) entry.1 entry.2 done) done =
        done ++ entries := by
  induction entries with
  | nil => simp
  | cons entry rest ih =>
      intro done h
      have hnew : entry.1 ∉ done.map (·.1) := by
        intro hmem
        rw [List.map_append, List.nodup_append] at h
        exact h.2.2 _ hmem _ (by simp) rfl
      rw [List.foldl_cons, put_of_new hnew, ih _ (by simpa using h)]
      simp

/-- Where no name is repeated a reader sees all members. -/
theorem distinct_of_nodup {κ ν : Type} [BEq κ] [LawfulBEq κ] {entries : List (κ × ν)}
    (h : (entries.map (·.1)).Nodup) : distinct (· == ·) entries = entries :=
  foldl_put_of_nodup [] (by simpa using h)

end Json

/-! ## Portable values -/

namespace Value

/-- A dict whose keys are texts. -/
def textDict (entries : List (String × Value)) : Value :=
  .dict (entries.map fun entry => (.text entry.1, entry.2))

/-- A value of the kinds of JSON but for doubles: its integers have at most 4300 digits, the keys of
its dicts are different texts, and a list or dict that has no level of `depth` left is empty. -/
inductive Portable : (depth : Nat) → Value → Prop where
  | null (depth : Nat) : Portable depth .null
  | bool (depth : Nat) (value : Bool) : Portable depth (.bool value)
  | int (depth : Nat) (value : Int) (short : (Nat.toDigits 10 value.natAbs).length ≤ 4300) :
      Portable depth (.int value)
  | text (depth : Nat) (value : String) : Portable depth (.text value)
  | emptyList (depth : Nat) : Portable depth (.list [])
  | list (depth : Nat) (items : List Value) (nested : ∀ item ∈ items, Portable depth item) :
      Portable (depth + 1) (.list items)
  | emptyDict (depth : Nat) : Portable depth (textDict [])
  | dict (depth : Nat) (entries : List (String × Value)) (distinct : (entries.map (·.1)).Nodup)
      (nested : ∀ entry ∈ entries, Portable depth entry.2) :
      Portable (depth + 1) (textDict entries)

/-- A document that a value inside others is written as, and that is read as this value. -/
private structure WrittenAs (inside depth : Nat) (value : Value) (document : Json) : Prop where
  written : value.writeAt inside = some document
  legible : Json.Legible Json.Rules.segment depth document
  meaning : ofJson document = value

private theorem writeItems_of_forall {inside depth : Nat} {items : List Value}
    (h : ∀ item ∈ items, ∃ document, WrittenAs inside depth item document) :
    ∃ documents, writeItems inside items = some documents ∧
      (∀ document ∈ documents, Json.Legible Json.Rules.segment depth document) ∧
      ofItems documents = items := by
  induction items with
  | nil => exact ⟨[], by rw [writeItems], by simp, by rw [ofItems]⟩
  | cons item items ih =>
      obtain ⟨document, hdocument⟩ := h item List.mem_cons_self
      obtain ⟨documents, hwritten, hlegible, hmeaning⟩ :=
        ih fun other hother => h other (.tail _ hother)
      refine ⟨document :: documents, ?_, ?_, ?_⟩
      · rw [writeItems, hdocument.written, hwritten]
        rfl
      · exact List.forall_mem_cons.mpr ⟨hdocument.legible, hlegible⟩
      · rw [ofItems, hdocument.meaning, hmeaning]

private theorem writeEntries_of_forall {inside depth : Nat} {entries : List (String × Value)}
    (h : ∀ entry ∈ entries, ∃ document, WrittenAs inside depth entry.2 document) :
    ∃ members, writeEntries inside (entries.map fun entry => (.text entry.1, entry.2)) =
        some members ∧
      (∀ member ∈ members, Json.Legible Json.Rules.segment depth member.2) ∧
      ofMembers members = entries := by
  induction entries with
  | nil => exact ⟨[], by rw [List.map_nil, writeEntries], by simp, by rw [ofMembers]⟩
  | cons entry entries ih =>
      obtain ⟨document, hdocument⟩ := h entry List.mem_cons_self
      obtain ⟨members, hwritten, hlegible, hmeaning⟩ :=
        ih fun other hother => h other (.tail _ hother)
      refine ⟨(entry.1, document) :: members, ?_, ?_, ?_⟩
      · rw [List.map_cons, writeEntries, keyText?, Text.toString?_ofString, hdocument.written,
          hwritten]
        rfl
      · exact List.forall_mem_cons.mpr ⟨hdocument.legible, hlegible⟩
      · rw [ofMembers, hdocument.meaning, hmeaning]

private theorem exists_writtenAs {depth : Nat} {value : Value} (h : Portable depth value) :
    ∀ inside, inside + depth < deepest → ∃ document, WrittenAs inside depth value document := by
  induction h with
  | null depth =>
      intro inside hinside
      exact ⟨.null, by rw [writeAt, if_neg (by omega)], .null _, by rw [ofJson]⟩
  | bool depth value =>
      intro inside hinside
      exact ⟨.bool value, by rw [writeAt, if_neg (by omega)], .bool _ _, by rw [ofJson]⟩
  | int depth value short =>
      intro inside hinside
      exact ⟨.int value, by rw [writeAt, if_neg (by omega)], .int _ _ short, by rw [ofJson]⟩
  | text depth value =>
      intro inside hinside
      exact ⟨.text value, by rw [writeAt, if_neg (by omega), Text.toString?_ofString]; rfl,
        .text _ _, by rw [ofJson]⟩
  | emptyList depth =>
      intro inside hinside
      exact ⟨.array [], by rw [writeAt, if_neg (by omega), writeItems]; rfl, .emptyArray _,
        by rw [ofJson, ofItems]⟩
  | list depth items nested ih =>
      intro inside hinside
      obtain ⟨documents, hwritten, hlegible, hmeaning⟩ :=
        writeItems_of_forall fun item hitem => ih item hitem (inside + 1) (by omega)
      exact ⟨.array documents, by rw [writeAt, if_neg (by omega), hwritten]; rfl,
        .array _ _ hlegible, by rw [ofJson, hmeaning]⟩
  | emptyDict depth =>
      intro inside hinside
      exact ⟨.object [], by rw [textDict, writeAt, if_neg (by omega)]; rfl, .emptyObject _,
        by rw [ofJson, ofMembers]; rfl⟩
  | dict depth entries distinct nested ih =>
      intro inside hinside
      obtain ⟨members, hwritten, hlegible, hmeaning⟩ :=
        writeEntries_of_forall fun entry hentry => ih entry hentry (inside + 1) (by omega)
      exact ⟨.object members, by rw [textDict, writeAt, if_neg (by omega), hwritten]; rfl,
        .object _ _ hlegible, by rw [ofJson, hmeaning, Json.distinct_of_nodup distinct]; rfl⟩

/-- A portable value that does not lie too deep is written as a document that can be read and says
this value. -/
theorem Portable.exists_document {inside depth : Nat} {value : Value} (h : Portable depth value)
    (hinside : inside + depth < deepest) :
    ∃ document, value.writeAt inside = some document ∧
      Json.Legible Json.Rules.segment depth document ∧ ofJson document = value := by
  obtain ⟨document, hdocument⟩ := exists_writtenAs h inside hinside
  exact ⟨document, hdocument.written, hdocument.legible, hdocument.meaning⟩

end Value

/-! ## Segments -/

namespace Segment

/-- The claims in the segment of portable claims are these claims. -/
theorem decode_encode {claims : Value} (h : claims.Portable 200) :
    ∃ segment, encode claims = .ok segment ∧ decode .any segment = .ok claims := by
  obtain ⟨document, hdocument⟩ := Value.exists_writtenAs h 0 (by decide)
  refine ⟨ofJson document, ?_, ?_⟩
  · rw [encode, Value.toJson?, hdocument.written]
  · rw [decode, ofJson, Base64.Url.decode_encode]
    simp only [readClaims, Json.readBytes_render hdocument.legible, Schema.check, hdocument.meaning]

theorem isSymbol_of_mem_encode {claims : Value} {segment : String}
    (h : encode claims = .ok segment) {char : Char} (hchar : char ∈ segment.toList) :
    Base64.isSymbol char = true := by
  unfold encode at h
  split at h
  · cases h
    exact Base64.Url.isSymbol_of_mem_encode hchar
  · cases h

end Segment

end SignedToken
