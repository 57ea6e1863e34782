import SignedToken.Text.Utf8

/-!
# Text

A text is a list of code points.  Most of them are characters, but half of a surrogate pair may also
stand alone.  Characters can be written as UTF-8 and a lone surrogate cannot, so not every text is
the text of a byte string.
-/

namespace SignedToken

inductive CodePoint where
  | char (value : Char)
  /-- One of the numbers from U+D800 to U+DFFF, counted from the first. -/
  | surrogate (index : Fin 0x800)
  deriving DecidableEq, Repr

namespace CodePoint

def char? : CodePoint → Option Char
  | .char value => some value
  | .surrogate _ => none

def number : CodePoint → Nat
  | .char value => value.toNat
  | .surrogate index => 0xD800 + index

end CodePoint

@[ext]
structure Text where
  ofList ::
  toList : List CodePoint
  deriving DecidableEq, Repr

namespace Text

instance : Inhabited Text := ⟨⟨[]⟩⟩

instance : Append Text := ⟨fun first second => ⟨first.toList ++ second.toList⟩⟩

@[coe]
def ofString (content : String) : Text := ⟨content.toList.map .char⟩

instance : Coe String Text := ⟨ofString⟩

def length (text : Text) : Nat := text.toList.length

/-- The characters of a text, from which lone surrogates are left out. -/
def chars (text : Text) : List Char := text.toList.filterMap CodePoint.char?

/-- A text without lone surrogates. -/
def toString? (text : Text) : Option String :=
  (text.toList.mapM CodePoint.char?).map String.ofList

/-- The bytes of a text as UTF-8, which writes no lone surrogate. -/
def utf8? (text : Text) : Option Bytes := text.toString?.map Utf8.encode

/-- The texts one after the other, with a separator between each two. -/
def join (separator : Text) : List Text → Text
  | [] => ⟨[]⟩
  | [text] => text
  | text :: rest => text ++ separator ++ join separator rest

/-! ## Texts of characters -/

@[simp]
theorem toList_append (first second : Text) :
    (first ++ second).toList = first.toList ++ second.toList := rfl

@[simp]
theorem toList_ofString (chars : String) :
    (chars : Text).toList = chars.toList.map .char := rfl

theorem toList_eq_nil_iff {text : Text} : text.toList = [] ↔ text = ("" : String) :=
  Text.ext_iff.symm

@[norm_cast]
theorem ofString_append (first second : String) :
    ((first ++ second : String) : Text) = first ++ second := by
  apply Text.ext
  simp

/-- The parts of a text of characters are such texts too. -/
theorem exists_ofString_of_append {first second : Text} {chars : String}
    (h : first ++ second = chars) :
    ∃ before after : String, first = before ∧ second = after := by
  obtain ⟨before, after, -, hbefore, hafter⟩ :=
    List.map_eq_append_iff.mp (Text.ext_iff.mp h).symm
  refine ⟨String.ofList before, String.ofList after, Text.ext ?_, Text.ext ?_⟩
  · rw [toList_ofString, String.toList_ofList, hbefore]
  · rw [toList_ofString, String.toList_ofList, hafter]

theorem ofString_injective : Function.Injective ofString := by
  intro left right heq
  have hpoints : left.toList.map CodePoint.char = right.toList.map CodePoint.char :=
    congrArg toList heq
  exact String.toList_inj.mp ((List.map_inj_right fun _ _ => CodePoint.char.inj).mp hpoints)

@[simp, norm_cast]
theorem ofString_inj {left right : String} : (left : Text) = right ↔ left = right :=
  ofString_injective.eq_iff

@[simp]
theorem ofString_beq (left right : String) : ((left : Text) == right) = (left == right) := by
  rw [Bool.eq_iff_iff, beq_iff_eq, beq_iff_eq, ofString_inj]

private theorem mapM_char?_eq_some_iff {points : List CodePoint} {chars : List Char} :
    points.mapM CodePoint.char? = some chars ↔ points = chars.map .char := by
  induction points generalizing chars with
  | nil => cases chars <;> simp
  | cons point rest ih =>
      cases point with
      | surrogate index => cases chars <;> simp [CodePoint.char?]
      | char value =>
          cases chars with
          | nil => cases hrest : rest.mapM CodePoint.char? <;> simp [CodePoint.char?, hrest]
          | cons first others =>
              rw [List.map_cons, List.cons.injEq, ← ih]
              cases hrest : rest.mapM CodePoint.char? <;> simp [CodePoint.char?, hrest]

theorem toString?_eq_some_iff {text : Text} {chars : String} :
    text.toString? = some chars ↔ text = chars := by
  simp only [toString?, Option.map_eq_some_iff, mapM_char?_eq_some_iff]
  constructor
  · rintro ⟨content, hcontent, rfl⟩
    apply Text.ext
    simp [hcontent]
  · rintro rfl
    exact ⟨chars.toList, rfl, String.ofList_toList⟩

@[simp]
theorem toString?_ofString (chars : String) : (chars : Text).toString? = some chars :=
  toString?_eq_some_iff.mpr rfl

@[simp]
theorem utf8?_ofString (chars : String) : (chars : Text).utf8? = some (Utf8.encode chars) := by
  rw [utf8?, toString?_ofString, Option.map_some]

end Text

end SignedToken
