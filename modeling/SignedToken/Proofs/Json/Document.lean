import SignedToken.Proofs.Json.Scalar

/-!
# Reading back written documents

A document is legible if its integers are short enough and its containers do not
lie too deep, as the rules of the reader have it.  What is written of a legible
document is read back as the same document, whatever follows it, and the fuel
that the reader gives itself is always enough for that.
-/

namespace SignedToken.Json

/-- A document without doubles that lies inside as many others as leave `depth` levels: its integers
have no more digits than can be read, and what has no level left is empty. -/
inductive Legible (rules : Rules) : (depth : Nat) → Json → Prop where
  | null (depth : Nat) : Legible rules depth .null
  | bool (depth : Nat) (value : Bool) : Legible rules depth (.bool value)
  | int (depth : Nat) (value : Int)
      (short : (Nat.toDigits 10 value.natAbs).length ≤ rules.digits) :
      Legible rules depth (.int value)
  | text (depth : Nat) (value : String) : Legible rules depth (.text value)
  | emptyArray (depth : Nat) : Legible rules depth (.array [])
  | array (depth : Nat) (items : List Json) (nested : ∀ item ∈ items, Legible rules depth item) :
      Legible rules (depth + 1) (.array items)
  | emptyObject (depth : Nat) : Legible rules depth (.object [])
  | object (depth : Nat) (members : List (String × Json))
      (nested : ∀ member ∈ members, Legible rules depth member.2) :
      Legible rules (depth + 1) (.object members)

/-- Whether a written document is read back, whatever follows it, with fuel for its length. -/
def ReadsBack (rules : Rules) (depth : Nat) (document : Json) : Prop :=
  ∀ fuel rest, 2 * document.render.length ≤ fuel → Closes rest →
    readValue rules fuel depth (document.render ++ rest) = .ok (document, rest)

/-! ## First characters -/

/-- Whether a value may start with a character: no blank and no closing bracket. -/
private def opens (char : Char) : Bool := !isBlank char && char != ']' && char != '\x7d'

private theorem opens_of_isDigit {char : Char} (h : char.isDigit = true) :
    opens char = true := by
  have hne : ∀ other, other.isDigit = false → char ≠ other := fun _ => ne_of_isDigit h
  simp [opens, isBlank, hne]

private theorem skipBlanks_of_opens {char : Char} (h : opens char = true) (rest : List Char) :
    skipBlanks (char :: rest) = char :: rest := by
  simp only [opens, Bool.and_eq_true, Bool.not_eq_true'] at h
  simp [skipBlanks, h.1.1]

private theorem exists_render_eq_cons {rules : Rules} {depth : Nat} {document : Json}
    (h : Legible rules depth document) :
    ∃ char chars, document.render = char :: chars ∧ opens char = true := by
  cases h with
  | null => exact ⟨_, _, rfl, rfl⟩
  | bool depth value => cases value <;> exact ⟨_, _, rfl, rfl⟩
  | int depth value =>
      obtain ⟨digit, digits, hdigit, hrender | hrender⟩ := renderInt_cases value
      · exact ⟨_, _, hrender, opens_of_isDigit hdigit⟩
      · exact ⟨_, _, hrender, rfl⟩
  | text => exact ⟨_, _, rfl, rfl⟩
  | emptyArray => exact ⟨_, _, rfl, rfl⟩
  | array => exact ⟨_, _, rfl, rfl⟩
  | emptyObject => exact ⟨_, _, rfl, rfl⟩
  | object => exact ⟨_, _, rfl, rfl⟩

/-! ## Scalars -/

private theorem readValue_scalar {rules : Rules} {char : Char} (hopens : opens char = true)
    (hbracket : char ≠ '[') (hbrace : char ≠ '\x7b') (hquote : char ≠ '"')
    (fuel depth : Nat) (rest : List Char) :
    readValue rules (fuel + 1) depth (char :: rest) =
      Reading.ofOption (scanScalar rules (char :: rest)) := by
  rw [readValue, skipBlanks_of_opens hopens]
  split <;> simp_all

/-- A written value is not empty, so its fuel is spent on the value itself at least. -/
private theorem readsBack_of_succ {rules : Rules} {depth : Nat} {document : Json}
    (hrender : 0 < document.render.length)
    (h : ∀ fuel rest, 2 * document.render.length ≤ fuel + 1 → Closes rest →
      readValue rules (fuel + 1) depth (document.render ++ rest) = .ok (document, rest)) :
    ReadsBack rules depth document := by
  intro fuel rest hfuel hrest
  cases fuel with
  | zero => omega
  | succ fuel => exact h fuel rest hfuel hrest

private theorem readsBack_null {rules : Rules} {depth : Nat} :
    ReadsBack rules depth .null :=
  readsBack_of_succ (by decide) fun _ _ _ _ => rfl

private theorem readsBack_bool {rules : Rules} {depth : Nat} (value : Bool) :
    ReadsBack rules depth (.bool value) := by
  cases value
  · exact readsBack_of_succ (by decide) fun _ _ _ _ => rfl
  · exact readsBack_of_succ (by decide) fun _ _ _ _ => rfl

private theorem readsBack_int {rules : Rules} {depth : Nat} {value : Int}
    (hshort : (Nat.toDigits 10 value.natAbs).length ≤ rules.digits) :
    ReadsBack rules depth (.int value) := by
  obtain ⟨digit, digits, hdigit, hrender⟩ := renderInt_cases value
  refine readsBack_of_succ (by rcases hrender with h | h <;> simp [render, h]) ?_
  intro fuel rest _ hrest
  have hread := scanScalar_renderInt hshort hrest
  have hne : ∀ other, other.isDigit = false → digit ≠ other := fun _ => ne_of_isDigit hdigit
  rw [render]
  obtain hrender | hrender := hrender
  · rw [hrender, List.cons_append] at hread ⊢
    rw [readValue_scalar (opens_of_isDigit hdigit) (hne _ rfl) (hne _ rfl) (hne _ rfl), hread]
    rfl
  · rw [hrender, List.cons_append] at hread ⊢
    rw [readValue_scalar rfl (by decide) (by decide) (by decide), hread]
    rfl

private theorem readsBack_text {rules : Rules} {depth : Nat} (value : String) :
    ReadsBack rules depth (.text value) := by
  refine readsBack_of_succ (by simp [render, renderText]) ?_
  intro fuel rest _ _
  have hscan := scanText_escaped rules value rest
  simp only [render, renderText, List.cons_append, List.append_assoc, List.nil_append]
  rw [readValue, skipBlanks_of_opens rfl]
  simp only [hscan, Option.map_some, Reading.ofOption]

/-! ## Containers -/

private theorem readsBack_emptyArray {rules : Rules} {depth : Nat} :
    ReadsBack rules depth (.array []) :=
  readsBack_of_succ (by decide) fun _ _ _ _ => by cases depth <;> rfl

private theorem readsBack_emptyObject {rules : Rules} {depth : Nat} :
    ReadsBack rules depth (.object []) :=
  readsBack_of_succ (by decide) fun _ _ _ _ => by cases depth <;> rfl

private theorem closes_cons {char : Char} (h : char = ',' ∨ char = ']' ∨ char = '\x7d')
    (rest : List Char) : Closes (char :: rest) := by
  intro other hother
  obtain rfl := Option.some.inj hother
  exact h

/-- Written items are read up to the bracket after them. -/
private theorem readItems_render {rules : Rules} {depth : Nat} {items : List Json}
    (hne : items ≠ []) (hitems : ∀ item ∈ items, ReadsBack rules depth item) :
    ∀ fuel rest, 2 * (renderItems items).length + 1 ≤ fuel →
      readItems rules fuel depth (renderItems items ++ ']' :: rest) = .ok (items, rest) := by
  induction items with
  | nil => exact absurd rfl hne
  | cons item items ih =>
      intro fuel rest hfuel
      have hitem := hitems item List.mem_cons_self
      obtain ⟨fuel, rfl⟩ := Nat.exists_eq_succ_of_ne_zero (by omega : fuel ≠ 0)
      cases items with
      | nil =>
          simp only [renderItems] at hfuel ⊢
          rw [readItems, hitem _ _ (by omega) (closes_cons (by decide) _)]
          rfl
      | cons second items =>
          have hrest := ih (by simp) (fun other hother => hitems other (.tail _ hother)) fuel rest
          rw [renderItems.eq_3 _ _ (by simp)] at hfuel ⊢
          simp only [List.length_append, List.length_cons] at hfuel
          rw [List.append_assoc, List.cons_append, readItems,
            hitem _ _ (by omega) (closes_cons (by decide) _)]
          show (readItems rules fuel depth _).map _ = _
          rw [hrest (by omega)]
          rfl

private theorem ok_bind {ε α β : Type} (result : α) (next : α → Except ε β) :
    (Except.ok result >>= next) = next result := rfl

private theorem readName_renderText {rules : Rules} (name : String) (rest : List Char) :
    readName rules (renderText name ++ ':' :: rest) = .ok (name, rest) := by
  have hscan := scanText_escaped rules name (':' :: rest)
  simp only [renderText, List.cons_append, List.append_assoc, List.nil_append]
  rw [readName, skipBlanks_of_opens rfl]
  simp only [hscan]
  rfl

/-- Written members are read up to the brace after them. -/
private theorem readMembers_render {rules : Rules} {depth : Nat} {members : List (String × Json)}
    (hne : members ≠ []) (hmembers : ∀ member ∈ members, ReadsBack rules depth member.2) :
    ∀ fuel rest, 2 * (renderMembers members).length + 1 ≤ fuel →
      readMembers rules fuel depth (renderMembers members ++ '\x7d' :: rest) =
        .ok (members, rest) := by
  induction members with
  | nil => exact absurd rfl hne
  | cons member members ih =>
      intro fuel rest hfuel
      obtain ⟨name, value⟩ := member
      have hvalue : ReadsBack rules depth value := hmembers _ List.mem_cons_self
      obtain ⟨fuel, rfl⟩ := Nat.exists_eq_succ_of_ne_zero (by omega : fuel ≠ 0)
      cases members with
      | nil =>
          simp only [renderMembers, List.length_append, List.length_cons] at hfuel ⊢
          rw [List.append_assoc, List.cons_append, readMembers, readName_renderText]
          simp only [ok_bind]
          rw [hvalue _ _ (by omega) (closes_cons (by decide) _)]
          rfl
      | cons second members =>
          have hrest := ih (by simp) (fun other hother => hmembers other (.tail _ hother)) fuel rest
          rw [renderMembers.eq_3 _ _ _ (by simp)] at hfuel ⊢
          simp only [List.length_append, List.length_cons] at hfuel
          simp only [List.append_assoc, List.cons_append]
          rw [readMembers, readName_renderText]
          simp only [ok_bind]
          rw [hvalue _ _ (by omega) (closes_cons (by decide) _)]
          show (readMembers rules fuel depth _).map _ = _
          rw [hrest (by omega)]
          rfl

private theorem readValue_array {rules : Rules} {char : Char} (hopens : opens char = true)
    (fuel depth : Nat) (rest : List Char) :
    readValue rules (fuel + 1) (depth + 1) ('[' :: char :: rest) =
      (readItems rules fuel depth (char :: rest)).map fun (items, rest) =>
        (.array items, rest) := by
  rw [readValue, skipBlanks_of_opens rfl]
  simp only [skipBlanks_of_opens hopens]
  split
  · simp_all [opens]
  · simp_all
  · next hdepth _ =>
      cases hdepth
      rfl

private theorem readValue_object {rules : Rules} {char : Char} (hopens : opens char = true)
    (fuel depth : Nat) (rest : List Char) :
    readValue rules (fuel + 1) (depth + 1) ('\x7b' :: char :: rest) =
      (readMembers rules fuel depth (char :: rest)).map fun (members, rest) =>
        (.object members, rest) := by
  rw [readValue, skipBlanks_of_opens rfl]
  simp only [skipBlanks_of_opens hopens]
  split
  · simp_all [opens]
  · simp_all
  · next hdepth _ =>
      cases hdepth
      rfl

private theorem exists_renderItems_eq_cons {rules : Rules} {depth : Nat} {item : Json}
    (h : Legible rules depth item) (items : List Json) :
    ∃ char chars, renderItems (item :: items) = char :: chars ∧ opens char = true := by
  obtain ⟨char, chars, hrender, hopens⟩ := exists_render_eq_cons h
  cases items with
  | nil => exact ⟨char, chars, by rw [renderItems, hrender], hopens⟩
  | cons =>
      exact ⟨char, _, by rw [renderItems.eq_3 _ _ (by simp), hrender, List.cons_append], hopens⟩

private theorem exists_renderMembers_eq_cons (member : String × Json)
    (members : List (String × Json)) :
    ∃ chars, renderMembers (member :: members) = '"' :: chars := by
  obtain ⟨name, value⟩ := member
  cases members with
  | nil => exact ⟨_, rfl⟩
  | cons => exact ⟨_, by rw [renderMembers.eq_3 _ _ _ (by simp), renderText]; rfl⟩

private theorem readsBack_array {rules : Rules} {depth : Nat} {items : List Json}
    (hlegible : ∀ item ∈ items, Legible rules depth item)
    (hitems : ∀ item ∈ items, ReadsBack rules depth item) :
    ReadsBack rules (depth + 1) (.array items) := by
  cases items with
  | nil => exact readsBack_emptyArray
  | cons item items =>
      refine readsBack_of_succ (by simp [render]) fun fuel rest hfuel _ => ?_
      simp only [render, List.length_append, List.length_cons, List.length_nil] at hfuel
      have hread := readItems_render (by simp) hitems fuel rest (by omega)
      obtain ⟨char, chars, hhead, hopens⟩ :=
        exists_renderItems_eq_cons (hlegible item List.mem_cons_self) items
      simp only [render, List.cons_append, List.append_assoc, List.nil_append]
      rw [hhead, List.cons_append] at hread ⊢
      rw [readValue_array hopens, hread]
      rfl

private theorem readsBack_object {rules : Rules} {depth : Nat} {members : List (String × Json)}
    (hmembers : ∀ member ∈ members, ReadsBack rules depth member.2) :
    ReadsBack rules (depth + 1) (.object members) := by
  cases members with
  | nil => exact readsBack_emptyObject
  | cons member members =>
      refine readsBack_of_succ (by simp [render]) fun fuel rest hfuel _ => ?_
      simp only [render, List.length_append, List.length_cons, List.length_nil] at hfuel
      have hread := readMembers_render (by simp) hmembers fuel rest (by omega)
      obtain ⟨chars, hhead⟩ := exists_renderMembers_eq_cons member members
      simp only [render, List.cons_append, List.append_assoc, List.nil_append]
      rw [hhead, List.cons_append] at hread ⊢
      rw [readValue_object rfl, hread]
      rfl

/-! ## Documents -/

/-- A legible document is read back from what is written of it, up to its last character. -/
theorem readsBack_of_legible {rules : Rules} {depth : Nat} {document : Json}
    (h : Legible rules depth document) : ReadsBack rules depth document := by
  induction h with
  | null => exact readsBack_null
  | bool depth value => exact readsBack_bool value
  | int depth value short => exact readsBack_int short
  | text depth value => exact readsBack_text value
  | emptyArray => exact readsBack_emptyArray
  | array depth items nested ih => exact readsBack_array nested ih
  | emptyObject => exact readsBack_emptyObject
  | object depth members nested ih => exact readsBack_object ih

/-- Writing and reading a legible document gives the document back. -/
theorem read_render {rules : Rules} {document : Json}
    (h : Legible rules rules.depth document) :
    read rules (String.ofList document.render) = some document := by
  have hread := readsBack_of_legible h (fuelFor document.render) [] (by rw [fuelFor]; omega)
    closes_nil
  rw [List.append_nil] at hread
  simp [read, readText, hread, skipBlanks, Except.toOption]

/-- The same through the bytes of the text. -/
theorem readBytes_render {rules : Rules} {document : Json}
    (h : Legible rules rules.depth document) :
    readBytes rules (Utf8.encode (String.ofList document.render)) = some document := by
  rw [readBytes, Utf8.decode_encode]
  exact read_render h

end SignedToken.Json
