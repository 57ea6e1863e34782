import SignedToken.Arith.Modular
import SignedToken.Curve.Basic

/-!
# Points of a curve

Points are added and multiplied in projective form, where `(x, y, z)` stands for the point
`(x / z ^ 2, y / z ^ 3)` and `z = 0` for the point at infinity, so that one inversion at the end is
enough.
-/

namespace SignedToken.Curve

structure Point where
  x : Nat
  y : Nat
  deriving DecidableEq, Repr

/-- A point in projective form. -/
structure Projective where
  x : Nat
  y : Nat
  z : Nat

/-- The right-hand side of the equation of the curve. -/
def cubic (params : Params) (x : Nat) : Nat :=
  (x * x % params.prime * x + params.a * x + params.b) % params.prime

/-- Whether a point has reduced coordinates and lies on the curve. -/
def contains (params : Params) (point : Point) : Bool :=
  point.x < params.prime && point.y < params.prime &&
    point.y * point.y % params.prime == cubic params point.x

def base (params : Params) : Point := ⟨params.baseX, params.baseY⟩

namespace Projective

def infinity : Projective := ⟨1, 1, 0⟩

def ofPoint (point : Point) : Projective := ⟨point.x, point.y, 1⟩

def toPoint? (params : Params) (point : Projective) : Option Point := do
  let inverse ← Modular.inverse? params.prime point.z
  let square := inverse * inverse % params.prime
  if point.z = 0 then none
  else
    some ⟨point.x * square % params.prime,
      point.y * (square * inverse % params.prime) % params.prime⟩

def double (params : Params) (point : Projective) : Projective :=
  let modulus := params.prime
  if point.z = 0 ∨ point.y = 0 then infinity
  else
    let ySquare := point.y * point.y % modulus
    let zSquare := point.z * point.z % modulus
    let s := 4 * point.x * ySquare % modulus
    let m := (3 * point.x * point.x + params.a * (zSquare * zSquare % modulus)) % modulus
    let x := Modular.sub modulus (m * m % modulus) (2 * s % modulus)
    let y :=
      Modular.sub modulus (m * Modular.sub modulus s x % modulus) (8 * ySquare * ySquare % modulus)
    ⟨x, y, 2 * point.y * point.z % modulus⟩

def add (params : Params) (left right : Projective) : Projective :=
  let modulus := params.prime
  if left.z = 0 then right
  else if right.z = 0 then left
  else
    let leftSquare := left.z * left.z % modulus
    let rightSquare := right.z * right.z % modulus
    let u := left.x * rightSquare % modulus
    let s := left.y * (rightSquare * right.z % modulus) % modulus
    let h := Modular.sub modulus (right.x * leftSquare % modulus) u
    let r := Modular.sub modulus (right.y * (leftSquare * left.z % modulus) % modulus) s
    if h = 0 then if r = 0 then double params left else infinity
    else
      let hSquare := h * h % modulus
      let hCube := hSquare * h % modulus
      let v := u * hSquare % modulus
      let x := Modular.sub modulus (r * r % modulus) ((hCube + 2 * v) % modulus)
      let y := Modular.sub modulus (r * Modular.sub modulus v x % modulus) (s * hCube % modulus)
      ⟨x, y, h * left.z % modulus * right.z % modulus⟩

/-- The multiple of a point by the lowest `bits` bits of a number. -/
def scaleBits (params : Params) (point : Projective) : (bits number : Nat) → Projective
  | 0, _ => infinity
  | bits + 1, number =>
    let twice := double params (scaleBits params point bits (number / 2))
    if number % 2 = 1 then add params twice point else twice

def scale (params : Params) (number : Nat) (point : Projective) : Projective :=
  scaleBits params point (Bytes.bitLength number) number

end Projective

/-- A multiple of the base point, unless it is infinity. -/
def publicPoint? (params : Params) (scalar : Nat) : Option Point :=
  (Projective.scale params scalar (.ofPoint (base params))).toPoint? params

/-! ## Points as bytes -/

/-- Both coordinates after a byte that says so. -/
def encodePoint (curve : Curve) (point : Point) : Bytes :=
  4 :: Bytes.ofNat curve.size point.x ++ Bytes.ofNat curve.size point.y

/-- A point by its first coordinate and the parity of the second one. -/
def decompress? (params : Params) (odd : Bool) (x : Nat) : Option Point := do
  let root ← Modular.squareRoot? params.prime (cubic params x)
  let y := if (root % 2 = 1) = odd then root else params.prime - root
  if (y % 2 = 1) = odd then some ⟨x, y⟩ else none

/-- The point that a byte string names by both coordinates, by the first one and a parity, or by
both and a parity.  It is never infinity and lies on the curve. -/
def decodePoint? (curve : Curve) : Bytes → Option Point
  | [] => none
  | form :: coordinates =>
    let size := curve.size
    let x := Bytes.toNat (coordinates.take size)
    let y := Bytes.toNat (coordinates.drop size)
    let odd : Bool := form % 2 = 1
    let found :=
      if coordinates.length = 2 * size then
        if form = 4 || ((form = 6 || form = 7) && (y % 2 = 1) = odd) then some ⟨x, y⟩ else none
      else if (form = 2 || form = 3) && coordinates.length = size then
        decompress? curve.params odd x
      else none
    found.filter (contains curve.params)

end SignedToken.Curve
