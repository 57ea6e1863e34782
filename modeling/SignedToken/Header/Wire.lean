import SignedToken.Claims.Segment
import SignedToken.Header.Basic
import SignedToken.Registry

/-!
# Headers as segments

Writing is strict: the name of the algorithm always stands there, the other members only if they are
set.  Reading is liberal: other members may be null, unknown ones do not matter.  The shape of the
known members is checked without any conversion before the name of the algorithm is looked at.
-/

namespace SignedToken.Header

/-- A member that is written only if it is set. -/
def optionalEntry {α : Type} (name : String) (toValue : α → Value) :
    Option α → List (Value × Value)
  | some content => [(.text name, toValue content)]
  | none => []

def toValue (header : Header) : Value :=
  .dict ((.text "alg", .text header.algorithm.name) ::
    (optionalEntry "kid" .text header.keyId ++ optionalEntry "typ" .text header.mediaType ++
      optionalEntry "crit" (fun names => .list (names.map .text)) header.critical))

def encode (header : Header) : Except Failure String := Segment.encode header.toValue

/-! ## Reading -/

def member? (name : String) (entries : List (Value × Value)) : Option Value :=
  (entries.find? fun entry => match entry.1 with | .text key => key == name | _ => false).map (·.2)

def checkText : Value → Checked Text
  | .text content => .ok content
  | _ => Checked.fail .notText

def checkOptionalText : Option Value → Checked (Option Text)
  | none => .ok none
  | some .null => .ok none
  | some value => (checkText value).map some

/-- Texts, the first of which has the given index. -/
def checkTexts : (index : Nat) → List Value → Checked (List Text)
  | _, [] => .ok []
  | index, item :: rest =>
    Checked.both List.cons ((checkText item).within (.item index)) (checkTexts (index + 1) rest)

def checkOptionalTexts : Option Value → Checked (Option (List Text))
  | none => .ok none
  | some .null => .ok none
  | some (.list items) => (checkTexts 0 items).map some
  | some .cycle => (checkTexts 0 [.cycle]).map some
  | some _ => Checked.fail .notList

def checkName : Option Value → Checked Text
  | none => Checked.fail .missing
  | some value => checkText value

/-- The members of a header as far as their shape goes, with the name of the algorithm as it is. -/
structure Shape where
  algorithm : Text
  keyId : Option Text
  mediaType : Option Text
  critical : Option (List Text)

def checkShape : Value → Checked Shape
  | .dict entries =>
    let algorithm := (checkName (member? "alg" entries)).within (.field "alg")
    let keyId := (checkOptionalText (member? "kid" entries)).within (.field "kid")
    let mediaType := (checkOptionalText (member? "typ" entries)).within (.field "typ")
    let critical := (checkOptionalTexts (member? "crit" entries)).within (.field "crit")
    let names := Checked.both Prod.mk algorithm keyId
    let rest := Checked.both Prod.mk mediaType critical
    Checked.both (fun first second => ⟨first.1, first.2, second.1, second.2⟩) names rest
  | _ => Checked.fail .notModel

def ofShape (registry : Registry) (shape : Shape) : Except DecodeFailure Header :=
  match registry.declared? shape.algorithm with
  | some algorithm => .ok ⟨algorithm, shape.keyId, shape.mediaType, shape.critical⟩
  | none => .error (.unknownAlgorithm (.text shape.algorithm) registry.enabledNames)

/-- The header that a value describes. -/
def ofValue (registry : Registry) (value : Value) : Except DecodeFailure Header :=
  match checkShape value with
  | .ok shape => ofShape registry shape
  | .error issues => .error (.header issues)

def decode (registry : Registry) (segment : Text) : Except DecodeFailure Header :=
  match Segment.decode .any segment with
  | .ok value => ofValue registry value
  | .error failure => .error failure

def decodeBytes (registry : Registry) (spelling : Bytes) : Except DecodeFailure Header :=
  match Segment.decodeBytes .any spelling with
  | .ok value => ofValue registry value
  | .error failure => .error failure

/-- Whether the settings had to be consulted on the way to this outcome: they are once the name of
a signature algorithm is reached. -/
def consultsSettings : Except DecodeFailure Header → Bool
  | .ok header => header.algorithm.isSome
  | .error (.unknownAlgorithm ..) => true
  | .error _ => false

end SignedToken.Header
