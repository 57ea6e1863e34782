import Mathlib
import SignedToken.Desk

/-!
# Headers that are apart

Two headers on a desk are apart if they have neither their place nor their list
of names in common.  A new header is apart from everything that was there
before, and a change of a header is seen in no header that is apart from it.
-/

namespace SignedToken

/-! ## Edits -/

/-- Whether an edit assigns nothing that another header has. -/
def HeaderEdit.IsFresh : HeaderEdit → Prop
  | .criticalOf _ => False
  | _ => True

/-- What is done to a header alone: a member is replaced by something new, or the list of names
changes where it lies. -/
inductive HeaderChange where
  | assign (edit : HeaderEdit) (fresh : edit.IsFresh)
  | inPlace (change : List Text → List Text)

/-- What a change comes to in a header that is a value of its own. -/
def HeaderChange.apply (header : Header) : HeaderChange → Header
  | .assign (.algorithm value) _ => { header with algorithm := value }
  | .assign (.keyId value) _ => { header with keyId := value }
  | .assign (.mediaType value) _ => { header with mediaType := value }
  | .assign (.critical value) _ => { header with critical := value }
  | .assign (.criticalOf _) fresh => fresh.elim
  | .inPlace change => { header with critical := header.critical.map change }

namespace Desk

/-- Changes the list of a header, in place; there must be a list. -/
def changeCritical? (desk : Desk) (ref : HeaderRef) (change : List Text → List Text) :
    Option Desk :=
  (desk.cell ref).critical.map fun index =>
    { desk with lists := desk.lists.set index (change (desk.lists.getD index [])) }

/-- Adding a name is one of the changes in place. -/
theorem appendCritical?_eq (desk : Desk) (ref : HeaderRef) (name : Text) :
    desk.appendCritical? ref name = desk.changeCritical? ref (· ++ [name]) := rfl

/-- Changes a header; a list that is not there cannot be changed. -/
def change (desk : Desk) (ref : HeaderRef) : HeaderChange → Desk
  | .assign edit _ => desk.edit ref edit
  | .inPlace change => (desk.changeCritical? ref change).getD desk

/-! ## Headers that are apart -/

/-- Whether a header lies on a desk with its list of names. -/
structure Holds (desk : Desk) (ref : HeaderRef) : Prop where
  header_lt : ref.index < desk.headers.length
  list_lt : ∀ index ∈ (desk.cell ref).critical, index < desk.lists.length

/-- Whether two headers have neither their place nor their list in common. -/
structure Apart (desk : Desk) (first second : HeaderRef) : Prop where
  header_ne : first.index ≠ second.index
  list_ne : ∀ index ∈ (desk.cell first).critical, index ∉ (desk.cell second).critical

variable {desk : Desk} {ref other first second : HeaderRef}

theorem Apart.symm (h : desk.Apart first second) : desk.Apart second first where
  header_ne := h.header_ne.symm
  list_ne := fun index hsecond hfirst => h.list_ne index hfirst hsecond

/-- A header looks the same on two desks where its cell and its list are the same. -/
theorem header_congr {after : Desk} (hcell : after.cell ref = desk.cell ref)
    (hlist : ∀ index ∈ (desk.cell ref).critical,
      after.lists.getD index [] = desk.lists.getD index []) :
    after.header ref = desk.header ref := by
  rw [Desk.header, Desk.header, hcell, view, view]
  cases hcritical : (desk.cell ref).critical with
  | none => rfl
  | some index => simp only [Option.map_some, hlist index hcritical]

/-! ### New headers -/

/-- The cell of a header that is put on the desk. -/
theorem cell_addHeader_self (desk : Desk) (header : Header) :
    (desk.addHeader header).2.cell (desk.addHeader header).1 =
      ⟨header.algorithm, header.keyId, header.mediaType, (desk.addList header.critical).1⟩ := by
  cases hcritical : header.critical <;> simp [addHeader, addList, hcritical, cell]

theorem index_addHeader (desk : Desk) (header : Header) :
    (desk.addHeader header).1.index = desk.headers.length := by
  cases hcritical : header.critical <;> simp [addHeader, addList, hcritical]

theorem cell_addHeader (header : Header) (hother : other.index < desk.headers.length) :
    (desk.addHeader header).2.cell other = desk.cell other := by
  cases hcritical : header.critical <;>
    simp [addHeader, addList, hcritical, cell, List.getElem?_append_left hother]

theorem lists_addHeader (header : Header) {index : Nat} (hindex : index < desk.lists.length) :
    (desk.addHeader header).2.lists.getD index [] = desk.lists.getD index [] := by
  cases hcritical : header.critical <;>
    simp [addHeader, addList, hcritical, List.getElem?_append_left hindex]

theorem length_headers_addHeader (desk : Desk) (header : Header) :
    (desk.addHeader header).2.headers.length = desk.headers.length + 1 := by
  cases hcritical : header.critical <;> simp [addHeader, addList, hcritical]

theorem length_lists_le_addHeader (desk : Desk) (header : Header) :
    desk.lists.length ≤ (desk.addHeader header).2.lists.length := by
  cases hcritical : header.critical <;> simp [addHeader, addList, hcritical]

/-- A header is put on the desk as it is. -/
theorem header_addHeader_self (desk : Desk) (header : Header) :
    (desk.addHeader header).2.header (desk.addHeader header).1 = header := by
  rw [Desk.header, cell_addHeader_self, view]
  obtain ⟨algorithm, keyId, mediaType, critical⟩ := header
  cases critical <;> simp [addHeader, addList]

theorem header_addHeader (header : Header) (hother : desk.Holds other) :
    (desk.addHeader header).2.header other = desk.header other :=
  header_congr (cell_addHeader header hother.header_lt) fun index hindex =>
    lists_addHeader header (hother.list_lt index hindex)

theorem holds_addHeader_self (desk : Desk) (header : Header) :
    (desk.addHeader header).2.Holds (desk.addHeader header).1 := by
  constructor
  · rw [length_headers_addHeader, index_addHeader]
    exact Nat.lt_succ_self _
  · rw [cell_addHeader_self]
    cases hcritical : header.critical <;> simp [addHeader, addList, hcritical]

theorem holds_addHeader (header : Header) (hother : desk.Holds other) :
    (desk.addHeader header).2.Holds other := by
  constructor
  · rw [length_headers_addHeader]
    exact hother.header_lt.trans (Nat.lt_succ_self _)
  · rw [cell_addHeader header hother.header_lt]
    intro index hindex
    exact (hother.list_lt index hindex).trans_le (length_lists_le_addHeader desk header)

/-- A new header takes a new place, and a new place for its list. -/
theorem apart_addHeader_self (header : Header) (hother : desk.Holds other) :
    (desk.addHeader header).2.Apart other (desk.addHeader header).1 := by
  constructor
  · rw [index_addHeader]
    exact hother.header_lt.ne
  · rw [cell_addHeader header hother.header_lt, cell_addHeader_self]
    intro index hindex
    have hlt := hother.list_lt index hindex
    cases hcritical : header.critical with
    | none => simp [addList]
    | some names => simpa [addList] using hlt.ne'

theorem apart_addHeader (header : Header) (hfirst : desk.Holds first) (hsecond : desk.Holds second)
    (h : desk.Apart first second) : (desk.addHeader header).2.Apart first second := by
  constructor
  · exact h.header_ne
  · rw [cell_addHeader header hfirst.header_lt, cell_addHeader header hsecond.header_lt]
    exact h.list_ne

/-! ### Changed headers -/

/-- What may be different on a desk after one of its headers is changed: the cell of the header, the
list that it had, and lists at new places, one of which may be its list now. -/
structure Touches (desk after : Desk) (ref : HeaderRef) : Prop where
  cell_of_ne : ∀ {other}, ref.index ≠ other.index → after.cell other = desk.cell other
  headers_length : after.headers.length = desk.headers.length
  lists_length : desk.lists.length ≤ after.lists.length
  list_of_notMem : ∀ {index}, index < desk.lists.length → index ∉ (desk.cell ref).critical →
    after.lists.getD index [] = desk.lists.getD index []
  critical_self : ∀ index ∈ (after.cell ref).critical,
    index ∈ (desk.cell ref).critical ∨ desk.lists.length ≤ index ∧ index < after.lists.length

/-- The desk with other lists and another cell in the place of one. -/
def rewrite (desk : Desk) (ref : HeaderRef) (lists : List (List Text)) (content : HeaderCell) :
    Desk :=
  { desk with lists := lists, headers := desk.headers.set ref.index content }

theorem cell_rewrite_self (hplaced : ref.index < desk.headers.length) (lists : List (List Text))
    (content : HeaderCell) : (desk.rewrite ref lists content).cell ref = content := by
  simp [rewrite, cell, hplaced]

theorem touches_rewrite (hplaced : ref.index < desk.headers.length) {lists : List (List Text)}
    {content : HeaderCell} (hlength : desk.lists.length ≤ lists.length)
    (hlists : ∀ {index}, index < desk.lists.length → index ∉ (desk.cell ref).critical →
      lists.getD index [] = desk.lists.getD index [])
    (hcritical : ∀ index ∈ content.critical,
      index ∈ (desk.cell ref).critical ∨ desk.lists.length ≤ index ∧ index < lists.length) :
    desk.Touches (desk.rewrite ref lists content) ref where
  cell_of_ne h := by simp [rewrite, cell, h]
  headers_length := by simp [rewrite]
  lists_length := hlength
  list_of_notMem := hlists
  critical_self := by rwa [cell_rewrite_self hplaced]

/-- The lists and the cell that a change puts in the place of the old ones. -/
def changed (desk : Desk) (ref : HeaderRef) : HeaderChange → List (List Text) × HeaderCell
  | .assign (.algorithm value) _ => (desk.lists, { desk.cell ref with algorithm := value })
  | .assign (.keyId value) _ => (desk.lists, { desk.cell ref with keyId := value })
  | .assign (.mediaType value) _ => (desk.lists, { desk.cell ref with mediaType := value })
  | .assign (.critical none) _ => (desk.lists, { desk.cell ref with critical := none })
  | .assign (.critical (some names)) _ =>
    (desk.lists ++ [names], { desk.cell ref with critical := some desk.lists.length })
  | .assign (.criticalOf _) fresh => fresh.elim
  | .inPlace change =>
    match (desk.cell ref).critical with
    | none => (desk.lists, desk.cell ref)
    | some index => (desk.lists.set index (change (desk.lists.getD index [])), desk.cell ref)

theorem change_eq_rewrite (hplaced : ref.index < desk.headers.length) (change : HeaderChange) :
    desk.change ref change =
      desk.rewrite ref (desk.changed ref change).1 (desk.changed ref change).2 := by
  have hsame : desk.headers.set ref.index (desk.cell ref) = desk.headers := by
    simp [cell, hplaced]
  cases change with
  | assign edit fresh =>
      cases edit with
      | algorithm value => rfl
      | keyId value => rfl
      | mediaType value => rfl
      | critical value => cases value <;> rfl
      | criticalOf other => exact fresh.elim
  | inPlace change =>
      rw [Desk.change, changeCritical?, changed, rewrite]
      cases hcritical : (desk.cell ref).critical with
      | none => simp [hsame]
      | some index => simp [hsame]

theorem touches_change (hplaced : ref.index < desk.headers.length) (change : HeaderChange) :
    desk.Touches (desk.change ref change) ref := by
  rw [change_eq_rewrite hplaced]
  cases change with
  | assign edit fresh =>
      cases edit with
      | algorithm value => exact touches_rewrite hplaced le_rfl (fun _ _ => rfl) fun _ => .inl
      | keyId value => exact touches_rewrite hplaced le_rfl (fun _ _ => rfl) fun _ => .inl
      | mediaType value => exact touches_rewrite hplaced le_rfl (fun _ _ => rfl) fun _ => .inl
      | critical value =>
          cases value with
          | none => exact touches_rewrite hplaced le_rfl (fun _ _ => rfl) (by simp [changed])
          | some names =>
              refine touches_rewrite hplaced (by simp [changed]) ?_ (by simp [changed])
              intro index hindex _
              simp [changed, List.getElem?_append_left hindex]
      | criticalOf other => exact fresh.elim
  | inPlace change =>
      rw [changed]
      cases hcritical : (desk.cell ref).critical with
      | none => exact touches_rewrite hplaced le_rfl (fun _ _ => rfl) (by simp [hcritical])
      | some own =>
          refine touches_rewrite hplaced (by simp) ?_ (by simp [hcritical])
          intro index _ hindex
          have hne : own ≠ index := by
            rintro rfl
            exact hindex hcritical
          simp [hne]

/-- A header itself changes as if it were a value of its own. -/
theorem header_change_self (hplaced : desk.Holds ref) (change : HeaderChange) :
    (desk.change ref change).header ref = change.apply (desk.header ref) := by
  rw [change_eq_rewrite hplaced.header_lt, Desk.header, cell_rewrite_self hplaced.header_lt, view,
    rewrite]
  cases change with
  | assign edit fresh =>
      cases edit with
      | algorithm value => rfl
      | keyId value => rfl
      | mediaType value => rfl
      | critical value =>
          cases value with
          | none => rfl
          | some names => simp [changed, HeaderChange.apply, Desk.header, view]
      | criticalOf other => exact fresh.elim
  | inPlace change =>
      rw [changed, HeaderChange.apply, Desk.header, view]
      cases hcritical : (desk.cell ref).critical with
      | none => simp [hcritical]
      | some index =>
          have hlt := hplaced.list_lt index hcritical
          simp [hcritical, hlt]

namespace Touches

variable {after : Desk}

theorem header (h : desk.Touches after ref) (hother : desk.Holds other)
    (hapart : desk.Apart ref other) : after.header other = desk.header other :=
  header_congr (h.cell_of_ne hapart.header_ne) fun index hindex =>
    h.list_of_notMem (hother.list_lt index hindex) fun hown => hapart.list_ne index hown hindex

/-- A header that is changed is still on the desk. -/
theorem holds_self (h : desk.Touches after ref) (hplaced : desk.Holds ref) : after.Holds ref where
  header_lt := by
    rw [h.headers_length]
    exact hplaced.header_lt
  list_lt index hindex := by
    obtain hown | ⟨-, hlt⟩ := h.critical_self index hindex
    · exact (hplaced.list_lt index hown).trans_le h.lists_length
    · exact hlt

theorem holds_of_ne (h : desk.Touches after ref) (hother : desk.Holds other)
    (hne : ref.index ≠ other.index) : after.Holds other where
  header_lt := by
    rw [h.headers_length]
    exact hother.header_lt
  list_lt := by
    rw [h.cell_of_ne hne]
    exact fun index hindex => (hother.list_lt index hindex).trans_le h.lists_length

/-- It stays apart from the headers that it was apart from. -/
theorem apart_self (h : desk.Touches after ref) (hother : desk.Holds other)
    (hapart : desk.Apart ref other) : after.Apart ref other where
  header_ne := hapart.header_ne
  list_ne index hindex := by
    rw [h.cell_of_ne hapart.header_ne]
    intro hshared
    obtain hown | ⟨hle, -⟩ := h.critical_self index hindex
    · exact hapart.list_ne index hown hshared
    · exact absurd (hother.list_lt index hshared) (not_lt.mpr hle)

theorem apart_of_ne (h : desk.Touches after ref) (hfirst : ref.index ≠ first.index)
    (hsecond : ref.index ≠ second.index) (hapart : desk.Apart first second) :
    after.Apart first second where
  header_ne := hapart.header_ne
  list_ne := by
    rw [h.cell_of_ne hfirst, h.cell_of_ne hsecond]
    exact hapart.list_ne

end Touches

/-! ### Shared lists -/

/-- A list that changes in place changes for every header that has it. -/
theorem critical_change_inPlace (hother : desk.Holds other)
    (hshared : (desk.cell ref).critical = (desk.cell other).critical)
    (change : List Text → List Text) :
    ((desk.change ref (.inPlace change)).header other).critical =
      (desk.header other).critical.map change := by
  rw [Desk.change, changeCritical?, hshared]
  cases hcritical : (desk.cell other).critical with
  | none => simp [Desk.header, view, hcritical]
  | some index =>
      have hlt := hother.list_lt index hcritical
      show Option.map _ (desk.cell other).critical = Option.map change _
      simp [Desk.header, view, hcritical, hlt]

theorem cell_setCell_self (hplaced : ref.index < desk.headers.length) (content : HeaderCell) :
    (desk.setCell ref content).cell ref = content := by
  simp [setCell, cell, hplaced]

theorem cell_setCell_of_ne (hne : ref.index ≠ other.index) (content : HeaderCell) :
    (desk.setCell ref content).cell other = desk.cell other := by
  simp [setCell, cell, hne]

end Desk

end SignedToken
