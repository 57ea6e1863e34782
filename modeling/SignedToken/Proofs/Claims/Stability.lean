import SignedToken.Proofs.Claims.Accepted
import SignedToken.Proofs.Claims.Conversion
import SignedToken.Proofs.Claims.Member
import SignedToken.Proofs.Header.Shape

/-!
# Claims that a schema leaves alone

A check of a document may convert its scalars, leave members out and fill in
values for missing ones.  Claims are stable under a schema if the document that is
written of them passes the check as these claims.  Whatever comes out of a check is
stable under the same schema, unless a double stands in it.
-/

namespace SignedToken

/-! ## Members found by their names -/

namespace Json

variable {ν : Type}

theorem mem_of_last? {name : String} {content : ν} {members : List (String × ν)}
    (h : last? name members = some content) : (name, content) ∈ members := by
  obtain ⟨member, hfind, rfl⟩ := Option.map_eq_some_iff.mp h
  have hname : member.1 = name := by simpa using List.find?_some hfind
  have hmem : member ∈ members := List.mem_reverse.mp (List.mem_of_find?_eq_some hfind)
  rw [← hname]
  exact hmem

/-- Where no name is repeated every member is found. -/
theorem last?_of_mem {members : List (String × ν)} (hdistinct : (members.map (·.1)).Nodup)
    {member : String × ν} (h : member ∈ members) : last? member.1 members = some member.2 := by
  induction members with
  | nil => cases h
  | cons first rest ih =>
      rw [List.map_cons, List.nodup_cons] at hdistinct
      rw [last?_cons]
      obtain rfl | hrest := List.mem_cons.mp h
      · cases hlater : last? member.1 rest with
        | none => simp
        | some content =>
            exact absurd (List.mem_map_of_mem (mem_of_last? hlater)) hdistinct.1
      · rw [ih hdistinct.2 hrest]
        rfl

end Json

/-! ## Checks of containers -/

namespace Schema

/-- Items pass a check together exactly if each one does. -/
theorem checkItems_eq_ok_iff {α : Type} {check : α → Checked Value} {items : List α}
    {values : List Value} (index : Nat) :
    checkItems check index items = .ok values ↔
      List.Forall₂ (fun item value => check item = .ok value) items values := by
  induction items generalizing index values with
  | nil => simp [checkItems, eq_comm]
  | cons item rest ih =>
      simp only [checkItems, Checked.both_eq_ok_iff, Checked.within_eq_ok_iff, ih]
      constructor
      · rintro ⟨value, others, hitem, hrest, rfl⟩
        exact .cons hitem hrest
      · rintro (_ | ⟨hitem, hrest⟩)
        exact ⟨_, _, hitem, hrest, rfl⟩

theorem checkMembers_eq_ok_iff {check : Json → Checked Value} {members : List (String × Json)}
    {entries : List (String × Value)} :
    checkMembers check members = .ok entries ↔
      List.Forall₂ (fun member entry => member.1 = entry.1 ∧ check member.2 = .ok entry.2)
        members entries := by
  induction members generalizing entries with
  | nil => simp [checkMembers, eq_comm]
  | cons member rest ih =>
      simp only [checkMembers, Checked.both_eq_ok_iff, Checked.within_eq_ok_iff, ih]
      constructor
      · rintro ⟨value, others, hvalue, hrest, rfl⟩
        exact .cons ⟨rfl, hvalue⟩ hrest
      · rintro (_ | ⟨⟨hname, hvalue⟩, hrest⟩)
        exact ⟨_, _, hvalue, hrest, by rw [hname]⟩

/-- What a field is given by the members of an object: the value of its last member, or else the
value for when it is missing. -/
inductive Gives (members : List (String × Json)) (field : String × Schema × Option Value) :
    Value → Prop where
  | written (document : Json) (value : Value) (found : Json.last? field.1 members = some document)
      (checked : check field.2.1 document = .ok value) : Gives members field value
  | filled (value : Value) (missing : Json.last? field.1 members = none)
      (default : field.2.2 = some value) : Gives members field value

theorem checkFields_eq_ok_iff {fields : List (String × Schema × Option Value)}
    {members : List (String × Json)} {values : List (String × Value)} :
    checkFields fields members = .ok values ↔
      List.Forall₂ (fun field value => field.1 = value.1 ∧ Gives members field value.2)
        fields values := by
  induction fields generalizing values with
  | nil => simp [checkFields, eq_comm]
  | cons field rest ih =>
      obtain ⟨name, schema, default⟩ := field
      simp only [checkFields, Checked.both_eq_ok_iff, Checked.within_eq_ok_iff, ih]
      constructor
      · rintro ⟨value, others, hvalue, hrest, rfl⟩
        refine .cons ⟨rfl, ?_⟩ hrest
        split at hvalue
        · rename_i document hfound
          exact .written document value hfound hvalue
        · rename_i content hmissing
          exact .filled value hmissing (congrArg some (Except.ok.inj hvalue))
        · cases hvalue
      · rintro (_ | ⟨⟨hname, hgives⟩, hrest⟩)
        refine ⟨_, _, ?_, hrest, congrArg (List.cons · _) (Prod.ext hname rfl)⟩
        cases hgives with
        | written document value hfound hchecked => simp only [hfound, hchecked]
        | filled value hmissing hdefault =>
            simp only at hdefault
            simp only [hmissing, hdefault]

/-! ## Stable claims -/

/-- Whether claims that leave `depth` levels are written as a document that passes the check as
these claims, wherever they lie that they can be written at all. -/
def Stable (schema : Schema) (depth : Nat) (claims : Value) : Prop :=
  ∀ inside, inside + depth < Value.deepest →
    ∃ document, claims.writeAt inside = some document ∧
      Json.Legible Json.Rules.segment depth document ∧ schema.check document = .ok claims

variable {schema : Schema} {depth : Nat}

theorem stable_any {claims : Value} (h : claims.Portable depth) : Stable .any depth claims := by
  intro inside hinside
  obtain ⟨document, hwritten, hlegible, hmeaning⟩ := h.exists_document hinside
  exact ⟨document, hwritten, hlegible, by rw [check, hmeaning]⟩

theorem stable_null : Stable .null depth .null := by
  intro inside hinside
  exact ⟨.null, by rw [Value.writeAt, if_neg (by omega)], .null _, by rw [check]⟩

theorem stable_text (content : String) : Stable .text depth (.text content) := by
  intro inside hinside
  exact ⟨.text content, by rw [Value.writeAt, if_neg (by omega), Text.toString?_ofString]; rfl,
    .text _ _, by rw [check]⟩

theorem stable_bool (truth : Bool) : Stable .bool depth (.bool truth) := by
  intro inside hinside
  exact ⟨.bool truth, by rw [Value.writeAt, if_neg (by omega)], .bool _ _, by rw [check]; rfl⟩

theorem stable_int {value : Int} (h : Scalar.IsShort value) :
    Stable .int depth (.int value) := by
  intro inside hinside
  exact ⟨.int value, by rw [Value.writeAt, if_neg (by omega)], .int _ _ h, by rw [check]; rfl⟩

theorem stable_emptyList : Stable (.list schema) depth (.list []) := by
  intro inside hinside
  exact ⟨.array [], by rw [Value.writeAt, if_neg (by omega)]; rfl, .emptyArray _,
    by rw [check]; rfl⟩

theorem stable_emptyDict : Stable (.dict schema) depth (.dict []) := by
  intro inside hinside
  exact ⟨.object [], by rw [Value.writeAt, if_neg (by omega)]; rfl, .emptyObject _,
    by rw [check]; rfl⟩

private theorem exists_items {items : List Value} (h : ∀ item ∈ items, Stable schema depth item)
    {inside : Nat} (hinside : inside + depth < Value.deepest) :
    ∃ documents, Value.writeItems inside items = some documents ∧
      (∀ document ∈ documents, Json.Legible Json.Rules.segment depth document) ∧
      List.Forall₂ (fun document item => schema.check document = .ok item) documents items := by
  induction items with
  | nil => exact ⟨[], by rw [Value.writeItems], by simp, .nil⟩
  | cons item items ih =>
      obtain ⟨hitem, hitems⟩ := List.forall_mem_cons.mp h
      obtain ⟨document, hwritten, hlegible, hchecked⟩ := hitem inside hinside
      obtain ⟨documents, hrest, hlegibles, hcheckeds⟩ := ih hitems
      refine ⟨document :: documents, ?_, List.forall_mem_cons.mpr ⟨hlegible, hlegibles⟩,
        .cons hchecked hcheckeds⟩
      rw [Value.writeItems, hwritten, hrest]
      rfl

/-- Lists take up one level. -/
theorem stable_list {items : List Value} (h : ∀ item ∈ items, Stable schema depth item) :
    Stable (.list schema) (depth + 1) (.list items) := by
  intro inside hinside
  have hinner : inside + 1 + depth < Value.deepest := by omega
  obtain ⟨documents, hwritten, hlegible, hchecked⟩ := exists_items h hinner
  refine ⟨.array documents, ?_, .array _ _ hlegible, ?_⟩
  · rw [Value.writeAt, if_neg (by omega), hwritten]
    rfl
  · rw [check, (checkItems_eq_ok_iff 0).mpr hchecked]
    rfl

private theorem exists_members {entries : List (String × Value)}
    (h : ∀ entry ∈ entries, Stable schema depth entry.2) {inside : Nat}
    (hinside : inside + depth < Value.deepest) :
    ∃ members, Value.writeEntries inside (entries.map fun entry => (.text entry.1, entry.2)) =
        some members ∧
      (∀ member ∈ members, Json.Legible Json.Rules.segment depth member.2) ∧
      List.Forall₂ (fun member entry => member.1 = entry.1 ∧ schema.check member.2 = .ok entry.2)
        members entries := by
  induction entries with
  | nil => exact ⟨[], by rw [List.map_nil, Value.writeEntries], by simp, .nil⟩
  | cons entry entries ih =>
      obtain ⟨hentry, hentries⟩ := List.forall_mem_cons.mp h
      obtain ⟨document, hwritten, hlegible, hchecked⟩ := hentry inside hinside
      obtain ⟨members, hrest, hlegibles, hcheckeds⟩ := ih hentries
      refine ⟨(entry.1, document) :: members, ?_, List.forall_mem_cons.mpr ⟨hlegible, hlegibles⟩,
        .cons ⟨rfl, hchecked⟩ hcheckeds⟩
      rw [List.map_cons, Value.writeEntries, Value.keyText?, Text.toString?_ofString, hwritten,
        hrest]
      rfl

theorem stable_dict {entries : List (String × Value)} (hdistinct : (entries.map (·.1)).Nodup)
    (h : ∀ entry ∈ entries, Stable schema depth entry.2) :
    Stable (.dict schema) (depth + 1) (Value.textDict entries) := by
  intro inside hinside
  have hinner : inside + 1 + depth < Value.deepest := by omega
  obtain ⟨members, hwritten, hlegible, hchecked⟩ := exists_members h hinner
  refine ⟨.object members, ?_, .object _ _ hlegible, ?_⟩
  · rw [Value.textDict, Value.writeAt, if_neg (by omega), hwritten]
    rfl
  · rw [check, checkMembers_eq_ok_iff.mpr hchecked]
    exact congrArg (fun members => Except.ok (Value.dict (members.map fun entry =>
      (Value.text entry.1, entry.2)))) (Json.distinct_of_nodup hdistinct)

/-- Every field is written under its name, so an object that holds these members gives every field
its value. -/
private theorem exists_fields {fields : List (String × Schema × Option Value)}
    {values : List (String × Value)}
    (h : List.Forall₂ (fun field value => field.1 = value.1 ∧ Stable field.2.1 depth value.2)
      fields values) {inside : Nat} (hinside : inside + depth < Value.deepest) :
    ∃ members, Value.writeFields inside values = some members ∧
      (∀ member ∈ members, Json.Legible Json.Rules.segment depth member.2) ∧
      members.map (·.1) = fields.map (·.1) ∧
      ∀ others : List (String × Json),
        (∀ member ∈ members, Json.last? member.1 others = some member.2) →
        List.Forall₂ (fun field value => field.1 = value.1 ∧ Gives others field value.2)
          fields values := by
  induction h with
  | nil => exact ⟨[], by rw [Value.writeFields], by simp, rfl, fun _ _ => .nil⟩
  | @cons field value fields values hfield hfields ih =>
      obtain ⟨hname, hstable⟩ := hfield
      obtain ⟨document, hwritten, hlegible, hchecked⟩ := hstable inside hinside
      obtain ⟨members, hrest, hlegibles, hnames, hgives⟩ := ih
      refine ⟨(value.1, document) :: members, ?_, List.forall_mem_cons.mpr ⟨hlegible, hlegibles⟩,
        by rw [List.map_cons, List.map_cons, hnames, hname], ?_⟩
      · rw [Value.writeFields, hwritten, hrest]
        rfl
      · intro others hfound
        obtain ⟨hfirst, hothers⟩ := List.forall_mem_cons.mp hfound
        refine .cons ⟨hname, .written document value.2 ?_ hchecked⟩ (hgives others hothers)
        rw [hname]
        exact hfirst

theorem stable_record {type : RecordType} {fields : List (String × Schema × Option Value)}
    {values : List (String × Value)} (hdistinct : (fields.map (·.1)).Nodup)
    (h : List.Forall₂ (fun field value => field.1 = value.1 ∧ Stable field.2.1 depth value.2)
      fields values) :
    Stable (.record type fields) (depth + 1) (.record type values) := by
  intro inside hinside
  have hfields : Value.fieldsInside inside type.kind + depth < Value.deepest := by
    cases type.kind <;> simp only [Value.fieldsInside] <;> omega
  obtain ⟨members, hwritten, hlegible, hnames, hgives⟩ := exists_fields h hfields
  refine ⟨.object members, ?_, .object _ _ hlegible, ?_⟩
  · rw [Value.writeAt, if_neg (by omega), hwritten]
    rfl
  · have hfound : ∀ member ∈ members, Json.last? member.1 members = some member.2 :=
      fun member hmember => Json.last?_of_mem (hnames ▸ hdistinct) hmember
    rw [check, checkFields_eq_ok_iff.mpr (hgives members hfound)]
    rfl

/-! ## Schemas that leave what they checked alone -/

/-- A schema whose records have fields with different names.  A value that is filled in for a
missing field is stable, and some field has none, so that no record comes out of an empty object. -/
inductive Regular : Schema → Prop where
  | any : Regular .any
  | null : Regular .null
  | text : Regular .text
  | int : Regular .int
  | float : Regular .float
  | bool : Regular .bool
  | list (item : Schema) (inner : Regular item) : Regular (.list item)
  | dict (entry : Schema) (inner : Regular entry) : Regular (.dict entry)
  | record (type : RecordType) (fields : List (String × Schema × Option Value))
      (distinct : (fields.map (·.1)).Nodup) (nested : ∀ field ∈ fields, Regular field.2.1)
      (filled : ∀ field ∈ fields, ∀ value, field.2.2 = some value →
        ∀ depth, Stable field.2.1 depth value)
      (required : ∃ field ∈ fields, field.2.2 = none) : Regular (.record type fields)

private theorem exists_of_mem_right {α β : Type} {related : α → β → Prop} {left : List α}
    {right : List β} (h : List.Forall₂ related left right) {value : β} (hvalue : value ∈ right) :
    ∃ item ∈ left, related item value := by
  induction h with
  | nil => cases hvalue
  | cons hfirst _ ih =>
      obtain rfl | hrest := List.mem_cons.mp hvalue
      · exact ⟨_, List.mem_cons_self, hfirst⟩
      · obtain ⟨item, hitem, hrelated⟩ := ih hrest
        exact ⟨item, .tail _ hitem, hrelated⟩

private theorem forall₂_imp_of_mem {α β : Type} {first second : α → β → Prop} {left : List α}
    {right : List β} (h : List.Forall₂ first left right)
    (himp : ∀ item ∈ left, ∀ value ∈ right, first item value → second item value) :
    List.Forall₂ second left right := by
  rw [List.forall₂_iff_zip] at h ⊢
  refine ⟨h.1, fun hpair => ?_⟩
  obtain ⟨hitem, hvalue⟩ := List.of_mem_zip hpair
  exact himp _ hitem _ hvalue (h.2 hpair)

variable {claims : Value} {document : Json}

private theorem stable_of_check_list {item : Schema}
    (ih : ∀ depth document claims, Json.Bounded Json.Rules.segment depth document →
      item.check document = .ok claims → ¬claims.HasFloat → Stable item depth claims)
    (hbounded : Json.Bounded Json.Rules.segment depth document)
    (h : (Schema.list item).check document = .ok claims) (hfloat : ¬claims.HasFloat) :
    Stable (.list item) depth claims := by
  cases hbounded with
  | emptyArray depth =>
      rw [check] at h
      cases h
      exact stable_emptyList
  | array depth items nested =>
      rw [check] at h
      obtain ⟨values, hchecked, rfl⟩ := Checked.map_eq_ok_iff.mp h
      refine stable_list fun value hvalue => ?_
      obtain ⟨document, hdocument, hitem⟩ :=
        exists_of_mem_right ((checkItems_eq_ok_iff 0).mp hchecked) hvalue
      exact ih _ _ _ (nested document hdocument) hitem
        fun hinside => hfloat (.item _ _ hvalue hinside)
  | _ => simp [check, Checked.fail] at h

private theorem stable_of_check_dict {entry : Schema}
    (ih : ∀ depth document claims, Json.Bounded Json.Rules.segment depth document →
      entry.check document = .ok claims → ¬claims.HasFloat → Stable entry depth claims)
    (hbounded : Json.Bounded Json.Rules.segment depth document)
    (h : (Schema.dict entry).check document = .ok claims) (hfloat : ¬claims.HasFloat) :
    Stable (.dict entry) depth claims := by
  cases hbounded with
  | emptyObject depth =>
      rw [check] at h
      cases h
      exact stable_emptyDict
  | object depth members nested =>
      rw [check] at h
      obtain ⟨entries, hchecked, rfl⟩ := Checked.map_eq_ok_iff.mp h
      refine stable_dict (Json.nodup_keys_distinct entries) fun entry hentry => ?_
      obtain ⟨member, hmember, -, hvalue⟩ := exists_of_mem_right
        (checkMembers_eq_ok_iff.mp hchecked) (Json.mem_of_mem_distinct hentry)
      exact ih _ _ _ (nested member hmember) hvalue
        fun hinside => hfloat (.entry _ _ (List.mem_map_of_mem hentry) hinside)
  | _ => simp [check, Checked.fail] at h

private theorem stable_of_check_record {type : RecordType}
    {fields : List (String × Schema × Option Value)} (hdistinct : (fields.map (·.1)).Nodup)
    (hfilled : ∀ field ∈ fields, ∀ value, field.2.2 = some value →
      ∀ depth, Stable field.2.1 depth value)
    (hrequired : ∃ field ∈ fields, field.2.2 = none)
    (ih : ∀ field ∈ fields, ∀ depth document claims,
      Json.Bounded Json.Rules.segment depth document → field.2.1.check document = .ok claims →
        ¬claims.HasFloat → Stable field.2.1 depth claims)
    (hbounded : Json.Bounded Json.Rules.segment depth document)
    (h : (Schema.record type fields).check document = .ok claims) (hfloat : ¬claims.HasFloat) :
    Stable (.record type fields) depth claims := by
  cases hbounded with
  | emptyObject depth =>
      rw [check] at h
      obtain ⟨values, hchecked, -⟩ := Checked.map_eq_ok_iff.mp h
      obtain ⟨field, hfield, hnone⟩ := hrequired
      obtain ⟨value, -, -, hgives⟩ :=
        exists_of_mem_right (checkFields_eq_ok_iff.mp hchecked).flip hfield
      cases hgives with
      | written document value hfound hchecked => cases hfound
      | filled value hmissing hdefault =>
          rw [hnone] at hdefault
          cases hdefault
  | object depth members nested =>
      rw [check] at h
      obtain ⟨values, hchecked, rfl⟩ := Checked.map_eq_ok_iff.mp h
      refine stable_record hdistinct (forall₂_imp_of_mem (checkFields_eq_ok_iff.mp hchecked) ?_)
      rintro field hfield value hvalue ⟨hname, hgives⟩
      refine ⟨hname, ?_⟩
      have hinner : ¬value.2.HasFloat := fun hinside => hfloat (.field _ _ _ hvalue hinside)
      generalize value.2 = content at hgives hinner ⊢
      cases hgives with
      | written document value hfound hchecked =>
          exact ih field hfield _ _ _ (nested _ (Json.mem_of_last? hfound)) hchecked hinner
      | filled value hmissing hdefault => exact hfilled field hfield _ hdefault _
  | _ => simp [check, Checked.fail] at h

/-- Claims that come out of a check, without doubles in them, are stable: each conversion gives a
value that is written as a scalar of the wanted kind, and what was left out or filled in is no
longer missing. -/
theorem stable_of_check (hregular : schema.Regular) :
    ∀ depth document claims, Json.Bounded Json.Rules.segment depth document →
      schema.check document = .ok claims → ¬claims.HasFloat → Stable schema depth claims := by
  induction hregular with
  | any =>
      intro depth document claims hbounded h hfloat
      rw [check] at h
      cases h
      exact stable_any (Value.portable_ofJson hbounded hfloat)
  | null =>
      intro depth document claims hbounded h hfloat
      cases document with
      | null =>
          rw [check] at h
          cases h
          exact stable_null
      | _ => simp [check, Checked.fail] at h
  | text =>
      intro depth document claims hbounded h hfloat
      cases document with
      | text content =>
          rw [check] at h
          cases h
          exact stable_text content
      | _ => simp [check, Checked.fail] at h
  | int =>
      intro depth document claims hbounded h hfloat
      rw [check] at h
      obtain ⟨value, hvalue, rfl⟩ := Checked.map_eq_ok_iff.mp h
      exact stable_int (Scalar.isShort_of_toInt hbounded hvalue)
  | float =>
      intro depth document claims hbounded h hfloat
      rw [check] at h
      obtain ⟨value, -, rfl⟩ := Checked.map_eq_ok_iff.mp h
      exact absurd (.float value) hfloat
  | bool =>
      intro depth document claims hbounded h hfloat
      rw [check] at h
      obtain ⟨truth, -, rfl⟩ := Checked.map_eq_ok_iff.mp h
      exact stable_bool truth
  | list item inner ih =>
      intro depth document claims hbounded h hfloat
      exact stable_of_check_list ih hbounded h hfloat
  | dict entry inner ih =>
      intro depth document claims hbounded h hfloat
      exact stable_of_check_dict ih hbounded h hfloat
  | record type fields distinct nested filled required ih =>
      intro depth document claims hbounded h hfloat
      exact stable_of_check_record distinct filled required ih hbounded h hfloat

/-! ## The catalog -/

/-- A record is regular if each of its fields has to be there. -/
private theorem regular_of_required {type : RecordType} (first : String × Schema)
    (others : List (String × Schema)) (hdistinct : ((first :: others).map (·.1)).Nodup)
    (hfields : ∀ field ∈ first :: others, Regular field.2) :
    Regular (.record type ((first :: others).map fun field => required field.1 field.2)) := by
  refine .record type _ ?_ ?_ ?_ ⟨_, List.mem_cons_self, rfl⟩
  · rw [List.map_map]
    exact hdistinct
  · intro field hfield
    obtain ⟨given, hgiven, rfl⟩ := List.mem_map.mp hfield
    exact hfields given hgiven
  · intro field hfield value hvalue
    obtain ⟨given, -, rfl⟩ := List.mem_map.mp hfield
    cases hvalue

private theorem regular_point : point.Regular :=
  regular_of_required ("x", .int) [("y", .int)] (by decide)
    (by simp [Regular.int])

private theorem regular_subject : subject.Regular :=
  regular_of_required ("sub", .text) [] (by decide) (by simp [Regular.text])

private theorem regular_named : named.Regular :=
  regular_of_required ("name", .text) [] (by decide)
    (by simp [Regular.text])

private theorem regular_jwtIoClaims : jwtIoClaims.Regular :=
  regular_of_required ("sub", .text) [("name", .text), ("iat", .int)]
    (by decide) (by simp [Regular.text, Regular.int])

private theorem regular_adminClaims : adminClaims.Regular :=
  regular_of_required ("sub", .text) [("admin", .bool)] (by decide)
    (by simp [Regular.text, Regular.bool])

/-- The roles may be missing, which is told by an empty list. -/
private theorem regular_userClaims : userClaims.Regular := by
  refine .record _ _ (by decide) ?_ ?_ ⟨_, List.mem_cons_self, rfl⟩
  · intro field hfield
    simp only [List.mem_cons, List.not_mem_nil, or_false] at hfield
    obtain rfl | rfl := hfield
    · exact .text
    · exact .list _ .text
  · intro field hfield value hvalue depth
    simp only [List.mem_cons, List.not_mem_nil, or_false] at hfield
    obtain rfl | rfl := hfield
    · cases hvalue
    · cases hvalue
      exact stable_emptyList

/-- The schemas that go by a name are regular. -/
theorem regular_of_mem_catalog : ∀ entry ∈ catalog, entry.2.Regular := by
  simp only [catalog, List.forall_mem_cons]
  exact ⟨.any, .dict _ .any, .list _ .any, .int, .text, .bool, .float, .null, .list _ .int,
    .list _ .text, .dict _ .int, regular_point, regular_subject, regular_named,
    regular_jwtIoClaims, regular_adminClaims, regular_userClaims, by simp⟩

end Schema

/-! ## Segments -/

namespace Segment

/-- Whether claims come out of a segment by a schema; the segment is given as text or as bytes. -/
def YieldsBy (schema : Schema) (claims : Value) : Prop :=
  (∃ segment, decode schema segment = .ok claims) ∨
    ∃ spelling, decodeBytes schema spelling = .ok claims

variable {schema : Schema} {claims : Value}

/-- Claims that come out of a segment come out of the bytes of a document within the limits. -/
theorem YieldsBy.exists_document (h : YieldsBy schema claims) :
    ∃ document, Json.Bounded Json.Rules.segment 200 document ∧
      schema.check document = .ok claims := by
  have hread : ∃ bytes, readClaims schema bytes = .ok claims := by
    obtain ⟨segment, hdecode⟩ | ⟨spelling, hdecode⟩ := h
    · rw [decode] at hdecode
      split at hdecode
      · exact ⟨_, hdecode⟩
      · cases hdecode
    · rw [decodeBytes] at hdecode
      split at hdecode
      · exact ⟨_, hdecode⟩
      · cases hdecode
  obtain ⟨bytes, hread⟩ := hread
  rw [readClaims] at hread
  split at hread
  · cases hread
  · rename_i document hdocument
    split at hread
    · rename_i found hchecked
      cases hread
      exact ⟨document, Json.bounded_of_readBytes hdocument, hchecked⟩
    · cases hread

/-- Claims that a schema read, without doubles in them, can be written and are read by the schema
as they were. -/
theorem decode_encode_of_yieldsBy (hregular : schema.Regular) (h : YieldsBy schema claims)
    (hfloat : ¬claims.HasFloat) :
    ∃ segment, encode claims = .ok segment ∧ decode schema segment = .ok claims := by
  obtain ⟨document, hbounded, hchecked⟩ := h.exists_document
  obtain ⟨written, hwritten, hlegible, hagain⟩ :=
    Schema.stable_of_check hregular _ _ _ hbounded hchecked hfloat 0 (by decide)
  refine ⟨ofJson written, ?_, ?_⟩
  · rw [encode, Value.toJson?, hwritten]
  · rw [decode, ofJson, Base64.Url.decode_encode]
    simp only [readClaims, Json.readBytes_render hlegible, hagain]

end Segment

end SignedToken
