import SignedToken.Curve.Point
import SignedToken.Der.Reader

/-!
# Domains of keys on curves

The domain of a key on a curve is the name of the curve.  The three curves that signatures are made
on may also be spelled out: the field, the equation, the base point, its order and the quotient of
the numbers of points; the seed from which the equation was derived may be left out.
-/

namespace SignedToken.Key

def primeFieldIdentifier : Bytes := [0x2a, 0x86, 0x48, 0xce, 0x3d, 0x01, 0x01]

/-- The curves that may be spelled out, with their seeds. -/
def spelledCurves : List (Curve × Nat) :=
  [(.p256, 0xc49d360886e704936a6678e1139d26b7819f7e90),
    (.p384, 0xa335926aa319a27a1d00896a6773a4827acdac73),
    (.p521, 0xd09e8800291cb85396cc6717393284aaa0da64ba)]

def seedSize : Nat := 20

/-- A curve spelled out, possibly with its seed. -/
def spelledDomain (curve : Curve) (seed : List Der) : Der :=
  let params := curve.params
  let field := Der.sequence [.identifier primeFieldIdentifier, .integer params.prime]
  let coefficients := [params.a, params.b].map fun number => Der.octets (.ofNat curve.size number)
  let base := Der.octets (Curve.encodePoint curve (Curve.base params))
  .sequence [.integer 1, field, .sequence (coefficients ++ seed), base, .integer params.order,
    .integer 1]

def spells (element : Der.Element) (curve : Curve) (seed : Nat) : Bool :=
  let withSeed := spelledDomain curve [.bits (.ofNat seedSize seed)]
  element.whole == (spelledDomain curve []).encode || element.whole == withSeed.encode

def curveOfDomain? (element : Der.Element) : Option Curve :=
  match element.identifier? with
  | some identifier => Curve.ofIdentifier? identifier
  | none =>
    (spelledCurves.find? fun (curve, seed) => spells element curve seed).map (·.1)

/-- The curve of a private key, whose domain stands around it or inside it; two domains must be
written alike. -/
def agreedCurve? : (around inside : Option Der.Element) → Option Curve
  | some domain, none => curveOfDomain? domain
  | none, some domain => curveOfDomain? domain
  | some domain, some other =>
    if domain.whole = other.whole then curveOfDomain? domain else none
  | none, none => none

end SignedToken.Key
