import Mathlib
import SignedToken.Proofs.Desk.Apart
import SignedToken.Proofs.Keyholder.Acceptance

/-!
# Parsed data beside their token

Whoever parses a token gets data under a copy of its header, and may edit the
copy.  A reading is a token on a desk with the data that were parsed from it so
far.  However parsing, editing and verifying follow one another, all the headers
of a reading stay apart, so that it behaves as if the token and each of the data
were values of their own.

This holds as long as every list of names that is assigned to a header is a new
one.  Whoever assigns the list that another header of the reading has makes both
headers share it, and then a name that is added in one place shows in the other.
-/

namespace SignedToken

namespace Desk

variable {α : Type}

theorem headers_run (desk : Desk) (operation : Registry → Traced α) :
    (desk.run operation).2.headers = desk.headers := by
  unfold run
  by_cases hconsulted : (operation desk.registry).events.contains .consultedSettings
  · simp only [if_pos hconsulted]
    rfl
  · simp only [if_neg hconsulted]

theorem lists_run (desk : Desk) (operation : Registry → Traced α) :
    (desk.run operation).2.lists = desk.lists := by
  unfold run
  by_cases hconsulted : (operation desk.registry).events.contains .consultedSettings
  · simp only [if_pos hconsulted]
    rfl
  · simp only [if_neg hconsulted]

end Desk

/-! ## Readings -/

structure Reading where
  desk : Desk
  token : StoredToken
  parsed : List StoredData

/-- What is done in the course of a reading. -/
inductive ReadingAction where
  | parse (type : ClaimsType)
  | change (place : Nat) (change : HeaderChange)
  /-- The list that the token has, or the data at another place, is assigned. -/
  | share (place : Nat) (source : Option Nat)
  | verify (holder : Keyholder)
  | verifyAny (holders : List Keyholder)

/-- Whether an action assigns no list that another header has. -/
def ReadingAction.IsFresh : ReadingAction → Prop
  | .share .. => False
  | _ => True

namespace Reading

/-- A token is put on a desk, and nothing is parsed from it yet. -/
def start (desk : Desk) (raw : RawToken) : Reading :=
  ⟨(desk.addToken raw).2, (desk.addToken raw).1, []⟩

/-- The token as it is now. -/
def raw (reading : Reading) : RawToken := reading.desk.token reading.token

/-- The parsed data as they are now. -/
def data (reading : Reading) : List TokenData := reading.parsed.map reading.desk.data

/-- What a key holder says of the token now, and the desk afterwards. -/
def verify (reading : Reading) (holder : Keyholder) : Traced Bool × Desk :=
  reading.desk.run fun _ => reading.raw.verify holder

/-- What several key holders say of the token now, and the desk afterwards. -/
def verifyAny (reading : Reading) (holders : List Keyholder) : Traced Bool × Desk :=
  reading.desk.run fun _ => reading.raw.verifyAny holders

/-- Parses the token once more; if that fails there are no further data. -/
def parse (reading : Reading) (type : ClaimsType) : Reading :=
  match reading.desk.parse reading.token type with
  | (.ok stored, after) => { reading with desk := after, parsed := reading.parsed ++ [stored] }
  | (.error _, after) => { reading with desk := after }

/-- Changes the header of the data at a place, if there are data. -/
def change (reading : Reading) (place : Nat) (change : HeaderChange) : Reading :=
  match reading.parsed[place]? with
  | some stored => { reading with desk := reading.desk.change stored.header change }
  | none => reading

/-- The header of the token, or of the data at a place. -/
def ref? (reading : Reading) : Option Nat → Option HeaderRef
  | none => some reading.token.header
  | some place => (reading.parsed[place]?).map (·.header)

/-- Assigns the list of another header of the reading to the data at a place. -/
def share (reading : Reading) (place : Nat) (source : Option Nat) : Reading :=
  match reading.parsed[place]?, reading.ref? source with
  | some stored, some other =>
    { reading with desk := reading.desk.edit stored.header (.criticalOf other) }
  | _, _ => reading

def step (reading : Reading) : ReadingAction → Reading
  | .parse type => reading.parse type
  | .change place change => reading.change place change
  | .share place source => reading.share place source
  | .verify holder => { reading with desk := (reading.verify holder).2 }
  | .verifyAny holders => { reading with desk := (reading.verifyAny holders).2 }

def run (reading : Reading) (actions : List ReadingAction) : Reading := actions.foldl step reading

/-- What an action does to the parsed data if each is a value of its own. -/
def apply (raw : RawToken) (data : List TokenData) : ReadingAction → List TokenData
  | .parse type =>
    match raw.claims type with
    | .ok claims => data ++ [⟨raw.header, claims⟩]
    | .error _ => data
  | .change place change =>
    data.modify place fun changed => { changed with header := change.apply changed.header }
  | .share place source =>
    match source.elim (some raw.header) fun other => (data[other]?).map (·.header) with
    | none => data
    | some header =>
      data.modify place fun changed =>
        { changed with header := { changed.header with critical := header.critical } }
  | .verify _ => data
  | .verifyAny _ => data

/-! ## Headers of a reading -/

/-- The headers of the token and of the parsed data. -/
def refs (reading : Reading) : List HeaderRef :=
  reading.token.header :: reading.parsed.map (·.header)

/-- Whether the headers of a reading lie on its desk, each apart from the others. -/
structure Isolated (reading : Reading) : Prop where
  holds : ∀ ref ∈ reading.refs, reading.desk.Holds ref
  apart : reading.refs.Pairwise reading.desk.Apart

variable {reading : Reading} {raw : RawToken}

theorem token_mem_refs (reading : Reading) : reading.token.header ∈ reading.refs :=
  List.mem_cons_self

theorem mem_refs_of_getElem? {place : Nat} {stored : StoredData}
    (h : reading.parsed[place]? = some stored) : stored.header ∈ reading.refs :=
  List.mem_cons_of_mem _ (List.mem_map_of_mem (List.mem_of_getElem? h))

theorem raw_eq_of_header {after : Reading} (htoken : after.token = reading.token)
    (hheader : after.desk.header reading.token.header = reading.desk.header reading.token.header) :
    after.raw = reading.raw := by
  rw [Reading.raw, Reading.raw, Desk.token, Desk.token, htoken, hheader]

namespace Isolated

/-- The header of some data and the header of the token are apart. -/
theorem apart_token (h : reading.Isolated) {place : Nat} {stored : StoredData}
    (hstored : reading.parsed[place]? = some stored) :
    reading.desk.Apart stored.header reading.token.header := by
  have hmem : stored.header ∈ reading.parsed.map (·.header) :=
    List.mem_map_of_mem (List.mem_of_getElem? hstored)
  exact ((List.pairwise_cons.mp h.apart).1 _ hmem).symm

/-- The headers of the data at two places are apart. -/
theorem apart_of_ne (h : reading.Isolated) {place other : Nat} {stored otherStored : StoredData}
    (hstored : reading.parsed[place]? = some stored)
    (hother : reading.parsed[other]? = some otherStored) (hne : place ≠ other) :
    reading.desk.Apart stored.header otherStored.header := by
  obtain ⟨hplace, rfl⟩ := List.getElem?_eq_some_iff.mp hstored
  obtain ⟨hlt, rfl⟩ := List.getElem?_eq_some_iff.mp hother
  have hapart := List.pairwise_iff_getElem.mp
    (List.pairwise_map.mp (List.pairwise_cons.mp h.apart).2)
  rcases Nat.lt_or_gt_of_ne hne with hbefore | hafter
  · exact hapart place other hplace hlt hbefore
  · exact (hapart other place hlt hplace hafter).symm

/-- Two headers of a reading are the same or apart. -/
theorem apart_of_mem (h : reading.Isolated) {first second : HeaderRef}
    (hfirst : first ∈ reading.refs) (hsecond : second ∈ reading.refs) (hne : first ≠ second) :
    reading.desk.Apart first second := by
  have : Std.Symm reading.desk.Apart := ⟨fun _ _ => Desk.Apart.symm⟩
  exact h.apart.forall hfirst hsecond hne

end Isolated

/-! ## One action -/

theorem isolated_start (desk : Desk) (raw : RawToken) : (start desk raw).Isolated where
  holds ref href := by
    obtain rfl := List.mem_singleton.mp href
    exact Desk.holds_addHeader_self desk raw.header
  apart := List.pairwise_singleton _ _

theorem raw_start (desk : Desk) (raw : RawToken) : (start desk raw).raw = raw := by
  have hheader : (start desk raw).desk.header (start desk raw).token.header = raw.header :=
    Desk.header_addHeader_self desk raw.header
  rw [Reading.raw, Desk.token, hheader]
  rfl

section Parsing

/-- Parsing leaves one more header on the desk, whether the claims can be read or not. -/
theorem desk_parse (reading : Reading) (type : ClaimsType) :
    (reading.parse type).desk = (reading.desk.addHeader reading.raw.header).2 := by
  unfold parse Desk.parse
  cases reading.token.received.claims type <;> rfl

theorem token_parse (reading : Reading) (type : ClaimsType) :
    (reading.parse type).token = reading.token := by
  unfold parse Desk.parse
  cases reading.token.received.claims type <;> rfl

theorem parsed_parse (reading : Reading) (type : ClaimsType) :
    (reading.parse type).parsed =
      match reading.raw.claims type with
      | .ok claims => reading.parsed ++ [⟨(reading.desk.addHeader reading.raw.header).1, claims⟩]
      | .error _ => reading.parsed := by
  have hclaims : reading.token.received.claims type = reading.raw.claims type := rfl
  unfold parse Desk.parse
  rw [hclaims]
  cases reading.raw.claims type <;> rfl

theorem header_parse (h : reading.Isolated) (type : ClaimsType) {ref : HeaderRef}
    (href : ref ∈ reading.refs) :
    (reading.parse type).desk.header ref = reading.desk.header ref := by
  rw [desk_parse]
  exact Desk.header_addHeader reading.raw.header (h.holds ref href)

theorem raw_parse (h : reading.Isolated) (type : ClaimsType) :
    (reading.parse type).raw = reading.raw :=
  raw_eq_of_header (token_parse reading type) (header_parse h type reading.token_mem_refs)

/-- The headers after parsing, if the claims can be read. -/
theorem refs_parse (reading : Reading) (type : ClaimsType) :
    (reading.parse type).refs = reading.refs ∨
      (reading.parse type).refs =
        reading.refs ++ [(reading.desk.addHeader reading.raw.header).1] := by
  rw [refs, token_parse, parsed_parse]
  cases reading.raw.claims type with
  | ok claims =>
      right
      simp [refs]
  | error failure => exact .inl rfl

theorem isolated_parse (h : reading.Isolated) (type : ClaimsType) :
    (reading.parse type).Isolated := by
  have hholds : ∀ ref ∈ reading.refs, (reading.parse type).desk.Holds ref := by
    intro ref href
    rw [desk_parse]
    exact Desk.holds_addHeader reading.raw.header (h.holds ref href)
  have hapart : reading.refs.Pairwise (reading.parse type).desk.Apart := by
    rw [desk_parse]
    apply h.apart.imp_of_mem
    intro first second hfirst hsecond
    exact Desk.apart_addHeader reading.raw.header (h.holds first hfirst) (h.holds second hsecond)
  rcases refs_parse reading type with hrefs | hrefs
  · exact ⟨hrefs ▸ hholds, hrefs ▸ hapart⟩
  · constructor
    · rw [hrefs]
      intro ref href
      rcases List.mem_append.mp href with hold | hnew
      · exact hholds ref hold
      · rw [List.mem_singleton.mp hnew, desk_parse]
        exact Desk.holds_addHeader_self reading.desk reading.raw.header
    · rw [hrefs, List.pairwise_append]
      refine ⟨hapart, List.pairwise_singleton _ _, fun old hold new hnew => ?_⟩
      rw [List.mem_singleton.mp hnew, desk_parse]
      exact Desk.apart_addHeader_self reading.raw.header (h.holds old hold)

theorem data_parse (h : reading.Isolated) (type : ClaimsType) :
    (reading.parse type).data = apply reading.raw reading.data (.parse type) := by
  have hold : reading.parsed.map (reading.parse type).desk.data = reading.data := by
    apply List.map_congr_left
    intro stored hstored
    have hmem : stored.header ∈ reading.refs :=
      List.mem_cons_of_mem _ (List.mem_map_of_mem hstored)
    rw [Desk.data, Desk.data, header_parse h type hmem]
  rw [data, parsed_parse, apply]
  cases reading.raw.claims type with
  | ok claims =>
      have hnew : (reading.parse type).desk.header
          (reading.desk.addHeader reading.raw.header).1 = reading.raw.header := by
        rw [desk_parse, Desk.header_addHeader_self]
      simp only [List.map_append, hold, List.map_cons, List.map_nil, Desk.data, hnew]
  | error failure => exact hold

end Parsing

section Changing

variable {place : Nat} {stored : StoredData}

theorem change_of_getElem? (hstored : reading.parsed[place]? = some stored)
    (change : HeaderChange) :
    reading.change place change =
      { reading with desk := reading.desk.change stored.header change } := by
  rw [Reading.change, hstored]

theorem raw_change (h : reading.Isolated) (hstored : reading.parsed[place]? = some stored)
    (change : HeaderChange) : (reading.change place change).raw = reading.raw := by
  have hplaced := h.holds stored.header (mem_refs_of_getElem? hstored)
  have hheader := (Desk.touches_change hplaced.header_lt change).header
    (h.holds _ reading.token_mem_refs) (h.apart_token hstored)
  rw [change_of_getElem? hstored]
  exact raw_eq_of_header rfl hheader

theorem isolated_change (h : reading.Isolated) (hstored : reading.parsed[place]? = some stored)
    (change : HeaderChange) : (reading.change place change).Isolated := by
  have hmem := mem_refs_of_getElem? hstored
  have hplaced := h.holds stored.header hmem
  have htouches := Desk.touches_change hplaced.header_lt change
  rw [change_of_getElem? hstored]
  constructor
  · intro ref href
    by_cases hself : ref = stored.header
    · rw [hself]
      exact htouches.holds_self hplaced
    · exact htouches.holds_of_ne (h.holds ref href)
        (h.apart_of_mem hmem href (Ne.symm hself)).header_ne
  · apply h.apart.imp_of_mem
    intro first second hfirst hsecond hapart
    by_cases hself : first = stored.header
    · rw [hself] at hapart ⊢
      exact htouches.apart_self (h.holds second hsecond) hapart
    · have hfirstNe := (h.apart_of_mem hmem hfirst (Ne.symm hself)).header_ne
      by_cases hother : second = stored.header
      · rw [hother] at hapart ⊢
        exact (htouches.apart_self (h.holds first hfirst) hapart.symm).symm
      · exact htouches.apart_of_ne hfirstNe
          (h.apart_of_mem hmem hsecond (Ne.symm hother)).header_ne hapart

theorem data_change (h : reading.Isolated) (hstored : reading.parsed[place]? = some stored)
    (change : HeaderChange) :
    (reading.change place change).data = apply reading.raw reading.data (.change place change) := by
  have hplaced := h.holds stored.header (mem_refs_of_getElem? hstored)
  rw [change_of_getElem? hstored, apply, data, data]
  apply List.ext_getElem?
  intro other
  rw [List.getElem?_modify, List.getElem?_map, List.getElem?_map]
  cases hother : reading.parsed[other]? with
  | none => rfl
  | some otherStored =>
      by_cases hself : place = other
      · obtain rfl : stored = otherStored := by
          rw [← hself, hstored] at hother
          exact Option.some.inj hother
        simp only [if_pos hself, Option.map_some, Option.map_eq_map, Desk.data,
          Desk.header_change_self hplaced]
      · have hheld := h.holds otherStored.header (mem_refs_of_getElem? hother)
        have hheader := (Desk.touches_change hplaced.header_lt change).header hheld
          (h.apart_of_ne hstored hother hself)
        simp only [if_neg hself, Option.map_some, Option.map_eq_map, Desk.data, hheader]

end Changing

section Verifying

variable {after : Desk}

/-- A desk with the same headers and lists is as good as the one before. -/
theorem isolated_of_same (h : reading.Isolated) (hheaders : after.headers = reading.desk.headers)
    (hlists : after.lists = reading.desk.lists) :
    ({ reading with desk := after } : Reading).Isolated where
  holds ref href := by
    obtain ⟨hheader, hlist⟩ := h.holds ref href
    constructor
    · rwa [hheaders]
    · rw [Desk.cell, hheaders, hlists]
      exact hlist
  apart := by
    apply h.apart.imp
    intro first second hapart
    constructor
    · exact hapart.header_ne
    · rw [Desk.cell, Desk.cell, hheaders]
      exact hapart.list_ne

theorem header_of_same (hheaders : after.headers = reading.desk.headers)
    (hlists : after.lists = reading.desk.lists) : after.header = reading.desk.header := by
  ext1 ref
  rw [Desk.header, Desk.header, Desk.cell, Desk.cell, Desk.view, Desk.view, hheaders, hlists]

theorem raw_of_same (hheaders : after.headers = reading.desk.headers)
    (hlists : after.lists = reading.desk.lists) :
    ({ reading with desk := after } : Reading).raw = reading.raw :=
  raw_eq_of_header rfl (congrFun (header_of_same hheaders hlists) _)

theorem data_of_same (hheaders : after.headers = reading.desk.headers)
    (hlists : after.lists = reading.desk.lists) :
    ({ reading with desk := after } : Reading).data = reading.data := by
  apply List.map_congr_left
  intro stored _
  rw [Desk.data, Desk.data, header_of_same hheaders hlists]

end Verifying

/-- What every action keeps: the headers stay apart and the token stays as it is, and the data
change as values of their own. -/
theorem step_spec (h : reading.Isolated) {action : ReadingAction} (hfresh : action.IsFresh) :
    (reading.step action).Isolated ∧ (reading.step action).raw = reading.raw ∧
      (reading.step action).data = apply reading.raw reading.data action := by
  cases action with
  | parse type => exact ⟨isolated_parse h type, raw_parse h type, data_parse h type⟩
  | change place change =>
      cases hstored : reading.parsed[place]? with
      | some stored =>
          exact ⟨isolated_change h hstored change, raw_change h hstored change,
            data_change h hstored change⟩
      | none =>
          have hsame : reading.step (.change place change) = reading := by
            rw [step, Reading.change, hstored]
          have hbeyond : reading.data.length ≤ place := by
            rw [data, List.length_map]
            exact List.getElem?_eq_none_iff.mp hstored
          rw [hsame, apply, List.modify_eq_self hbeyond]
          exact ⟨h, rfl, rfl⟩
  | share place source => exact hfresh.elim
  | verify holder =>
      have hheaders := reading.desk.headers_run fun _ => reading.raw.verify holder
      have hlists := reading.desk.lists_run fun _ => reading.raw.verify holder
      exact ⟨isolated_of_same h hheaders hlists, raw_of_same hheaders hlists,
        data_of_same hheaders hlists⟩
  | verifyAny holders =>
      have hheaders := reading.desk.headers_run fun _ => reading.raw.verifyAny holders
      have hlists := reading.desk.lists_run fun _ => reading.raw.verifyAny holders
      exact ⟨isolated_of_same h hheaders hlists, raw_of_same hheaders hlists,
        data_of_same hheaders hlists⟩

/-! ## Any number of actions -/

/-- Fresh actions leave the headers apart and the token as it was, and the data become
what they would become as values of their own. -/
theorem run_spec (h : reading.Isolated) {actions : List ReadingAction}
    (hfresh : ∀ action ∈ actions, action.IsFresh) :
    (reading.run actions).Isolated ∧ (reading.run actions).raw = reading.raw ∧
      (reading.run actions).data = actions.foldl (apply reading.raw) reading.data := by
  induction actions generalizing reading with
  | nil => exact ⟨h, rfl, rfl⟩
  | cons action rest ih =>
      obtain ⟨haction, hrest⟩ := List.forall_mem_cons.mp hfresh
      obtain ⟨hisolated, hraw, hdata⟩ := step_spec h haction
      obtain ⟨hafter, hrawAfter, hdataAfter⟩ := ih hisolated hrest
      refine ⟨hafter, hrawAfter.trans hraw, ?_⟩
      rw [hraw, hdata] at hdataAfter
      exact hdataAfter

theorem getElem?_apply (raw : RawToken) {action : ReadingAction} {place : Nat}
    {data : List TokenData} (hplace : place < data.length) (hfresh : action.IsFresh)
    (haction : ∀ change, action ≠ .change place change) :
    (apply raw data action)[place]? = data[place]? ∧ place < (apply raw data action).length := by
  cases action with
  | parse type =>
      rw [apply]
      cases raw.claims type with
      | ok claims =>
          rw [List.getElem?_append_left hplace, List.length_append]
          exact ⟨rfl, hplace.trans_le (Nat.le_add_right _ _)⟩
      | error failure => exact ⟨rfl, hplace⟩
  | change other change =>
      have hne : other ≠ place := by
        rintro rfl
        exact haction change rfl
      rw [apply, List.getElem?_modify_ne _ _ hne, List.length_modify]
      exact ⟨rfl, hplace⟩
  | share place source => exact hfresh.elim
  | verify holder => exact ⟨rfl, hplace⟩
  | verifyAny holders => exact ⟨rfl, hplace⟩

/-- Data stay as they are as long as no action changes them. -/
theorem getElem?_foldl_apply (raw : RawToken) {actions : List ReadingAction} {place : Nat}
    (data : List TokenData) (hplace : place < data.length)
    (hfresh : ∀ action ∈ actions, action.IsFresh)
    (hactions : ∀ change, ReadingAction.change place change ∉ actions) :
    (actions.foldl (apply raw) data)[place]? = data[place]? := by
  induction actions generalizing data with
  | nil => rfl
  | cons action rest ih =>
      have haction : ∀ change, action ≠ .change place change := by
        rintro change rfl
        exact hactions change List.mem_cons_self
      have hrest : ∀ change, ReadingAction.change place change ∉ rest :=
        fun change hmem => hactions change (List.mem_cons_of_mem _ hmem)
      obtain ⟨hfirst, hothers⟩ := List.forall_mem_cons.mp hfresh
      obtain ⟨hsame, hstill⟩ := getElem?_apply raw hplace hfirst haction
      rw [List.foldl_cons, ih _ hstill hothers hrest, hsame]

/-- After any parsing, editing and verifying, with new lists wherever a list is assigned, the token
is the one that was read, every key holder says of it what was said in the beginning, and the data
are what they would be as values of their own.  Whatever is done further in this way, data that are
not edited themselves stay as they are; and parsing that fails leaves everything as it is. -/
theorem parsed_data_isolated (desk : Desk) (raw : RawToken) {actions : List ReadingAction}
    (hfresh : ∀ action ∈ actions, action.IsFresh) :
    let reading := (start desk raw).run actions
    reading.raw = raw ∧
      (∀ holder, (reading.verify holder).1 = raw.verify holder) ∧
      (∀ holders, (reading.verifyAny holders).1 = raw.verifyAny holders) ∧
      reading.data = actions.foldl (apply raw) [] ∧
      (∀ later place, (∀ action ∈ later, action.IsFresh) → place < reading.data.length →
        (∀ change, ReadingAction.change place change ∉ later) →
        (reading.run later).data[place]? = reading.data[place]?) ∧
      (∀ type failure, raw.claims type = .error failure →
        (reading.parse type).raw = raw ∧ (reading.parse type).data = reading.data) := by
  intro reading
  obtain ⟨hisolated, hraw, hdata⟩ := run_spec (isolated_start desk raw) hfresh
  rw [raw_start] at hraw hdata
  have hverify : ∀ holder, (reading.verify holder).1 = raw.verify holder := by
    intro holder
    exact congrArg (RawToken.verify · holder) hraw
  have hverifyAny : ∀ holders, (reading.verifyAny holders).1 = raw.verifyAny holders := by
    intro holders
    exact congrArg (RawToken.verifyAny · holders) hraw
  refine ⟨hraw, hverify, hverifyAny, hdata, ?_, ?_⟩
  · intro later place hlaterFresh hplace hlater
    obtain ⟨-, -, hdataLater⟩ := run_spec hisolated hlaterFresh
    rw [hdataLater]
    exact getElem?_foldl_apply _ _ hplace hlaterFresh hlater
  · intro type failure hfailure
    refine ⟨(raw_parse hisolated type).trans hraw, ?_⟩
    rw [data_parse hisolated type, hraw, apply, hfailure]

/-- A token that names something its reader has to understand. -/
private def namingToken : Value := .text "eyJhbGciOiJub25lIiwiY3JpdCI6WyJiNjQiXX0.MQ."

private theorem exists_namingToken :
    ∃ raw claims, (RawToken.decode ⟨true, ⟨""⟩⟩ namingToken).outcome = .ok raw ∧
      raw.header = ⟨none, none, none, some ["b64"]⟩ ∧
      raw.claims (.schema .any) = .ok claims := by
  have hdecodes : (RawToken.decode ⟨true, ⟨""⟩⟩ namingToken).outcome.toOption.any (fun raw =>
      raw.header == ⟨none, none, none, some ["b64"]⟩ &&
        (raw.claims (.schema .any)).toOption.any fun _ => true) = true := by
    decide +kernel
  obtain ⟨raw, hraw, hholds⟩ := exists_ok_of_any hdecodes
  rw [Bool.and_eq_true, beq_iff_eq] at hholds
  obtain ⟨claims, hclaims, -⟩ := exists_ok_of_any hholds.2
  exact ⟨raw, claims, hraw, hholds.1, hclaims⟩

/-- Names are added to the list of the data, and the token keeps its own. -/
theorem parsed_data_isolated_of_naming :
    ∃ raw, (RawToken.decode ⟨true, ⟨""⟩⟩ namingToken).outcome = .ok raw ∧
      raw.header.critical = some [("b64" : Text)] ∧
      ((start (.empty []) raw).run
        [.parse (.schema .any), .change 0 (.inPlace (· ++ [("exp" : Text)]))]).raw = raw := by
  obtain ⟨raw, claims, hraw, hheader, -⟩ := exists_namingToken
  refine ⟨raw, hraw, by rw [hheader], ?_⟩
  exact (parsed_data_isolated (.empty []) raw (by simp [ReadingAction.IsFresh])).1

section Sharing

variable {place : Nat} {stored : StoredData}

theorem share_token_of_getElem? (hstored : reading.parsed[place]? = some stored) :
    reading.share place none = { reading with
      desk := reading.desk.edit stored.header (.criticalOf reading.token.header) } := by
  rw [share, hstored, ref?]

/-- What is done in place to a list that the token shares is done to the token. -/
theorem critical_raw_change_share (h : reading.Isolated)
    (hstored : reading.parsed[place]? = some stored) (change : List Text → List Text) :
    ((reading.share place none).change place (.inPlace change)).raw.header.critical =
      reading.raw.header.critical.map change := by
  have hplaced := h.holds stored.header (mem_refs_of_getElem? hstored)
  have htoken := h.holds _ reading.token_mem_refs
  have hne := (h.apart_token hstored).header_ne
  let after := reading.desk.edit stored.header (.criticalOf reading.token.header)
  have hcell : after.cell reading.token.header = reading.desk.cell reading.token.header :=
    Desk.cell_setCell_of_ne hne _
  have hshared : (after.cell stored.header).critical =
      (after.cell reading.token.header).critical := by
    have hassigned : after.cell stored.header = { reading.desk.cell stored.header with
        critical := (reading.desk.cell reading.token.header).critical } :=
      Desk.cell_setCell_self hplaced.header_lt _
    rw [hcell, hassigned]
  have hheld : after.Holds reading.token.header := by
    constructor
    · simpa [after, Desk.edit, Desk.setCell] using htoken.header_lt
    · rw [hcell]
      exact htoken.list_lt
  have hheader : after.header reading.token.header = reading.raw.header :=
    Desk.header_congr hcell fun _ _ => rfl
  have hafter : ({ reading with desk := after } : Reading).parsed[place]? = some stored := hstored
  rw [share_token_of_getElem? hstored, change_of_getElem? hafter, ← hheader]
  exact Desk.critical_change_inPlace hheld hshared change

end Sharing

/-- The same is done after the data were assigned the list of the token. -/
theorem not_isolated_when_shared :
    ∃ raw, (RawToken.decode ⟨true, ⟨""⟩⟩ namingToken).outcome = .ok raw ∧
      raw.header.critical = some [("b64" : Text)] ∧
      ((start (.empty []) raw).run
        [.parse (.schema .any), .share 0 none,
          .change 0 (.inPlace (· ++ [("exp" : Text)]))]).raw.header.critical =
        some [("b64" : Text), "exp"] := by
  obtain ⟨raw, claims, hraw, hheader, hclaims⟩ := exists_namingToken
  refine ⟨raw, hraw, by rw [hheader], ?_⟩
  have hstart := isolated_start (.empty []) raw
  have hstored : ∃ stored,
      ((start (.empty []) raw).parse (.schema .any)).parsed[0]? = some stored := by
    rw [parsed_parse, raw_start, hclaims]
    exact ⟨_, rfl⟩
  obtain ⟨stored, hstored⟩ := hstored
  show ((((start (.empty []) raw).parse (.schema .any)).share 0 none).change 0
    (.inPlace (· ++ [("exp" : Text)]))).raw.header.critical = _
  rw [critical_raw_change_share (isolated_parse hstart _) hstored, raw_parse hstart, raw_start,
    hheader]
  rfl

end Reading

end SignedToken
