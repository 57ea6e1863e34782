import SignedToken.Bytes

/-!
# Octets and sextets

Base64 regroups octets into sextets: three octets become four sextets, and a rest of one or two
octets becomes two or three sextets whose last one is filled up with zero bits.  The way back drops
the bits that fill no octet, so it undoes the regrouping whatever those bits are.
-/

namespace SignedToken.Base64

abbrev Sextet := Fin 64

def sextet (number : Nat) : Sextet := ⟨number % 64, Nat.mod_lt _ (by decide)⟩

def toSextets : Bytes → List Sextet
  | [] => []
  | [a] => [sextet (a.toNat / 4), sextet (a.toNat % 4 * 16)]
  | [a, b] =>
    [sextet (a.toNat / 4), sextet (a.toNat % 4 * 16 + b.toNat / 16), sextet (b.toNat % 16 * 4)]
  | a :: b :: c :: rest =>
    sextet (a.toNat / 4) :: sextet (a.toNat % 4 * 16 + b.toNat / 16) ::
      sextet (b.toNat % 16 * 4 + c.toNat / 64) :: sextet c.toNat :: toSextets rest

/-- Bits that fill no octet are dropped. -/
def ofSextets : List Sextet → Bytes
  | a :: b :: c :: d :: rest =>
    UInt8.ofNat (a.val * 4 + b.val / 16) :: UInt8.ofNat (b.val * 16 + c.val / 4) ::
      UInt8.ofNat (c.val * 64 + d.val) :: ofSextets rest
  | [a, b, c] => [UInt8.ofNat (a.val * 4 + b.val / 16), UInt8.ofNat (b.val * 16 + c.val / 4)]
  | [a, b] => [UInt8.ofNat (a.val * 4 + b.val / 16)]
  | _ => []

/-- The sixty-four symbols: both cases of the letters, the digits, and two more. -/
structure Alphabet where
  sixtyTwo : Char
  sixtyThree : Char

namespace Alphabet

/-- The alphabet that is safe in addresses and file names. -/
def url : Alphabet := ⟨'-', '_'⟩

/-- The alphabet of mail and key files. -/
def standard : Alphabet := ⟨'+', '/'⟩

def symbol (alphabet : Alphabet) (digit : Sextet) : Char :=
  if digit.val < 26 then Char.ofNat (65 + digit.val)
  else if digit.val < 52 then Char.ofNat (71 + digit.val)
  else if digit.val < 62 then Char.ofNat (digit.val - 4)
  else if digit.val = 62 then alphabet.sixtyTwo
  else alphabet.sixtyThree

def digit? (alphabet : Alphabet) (char : Char) : Option Sextet :=
  let number := char.toNat
  if 65 ≤ number ∧ number ≤ 90 then some (sextet (number - 65))
  else if 97 ≤ number ∧ number ≤ 122 then some (sextet (number - 71))
  else if 48 ≤ number ∧ number ≤ 57 then some (sextet (number + 4))
  else if char = alphabet.sixtyTwo then some 62
  else if char = alphabet.sixtyThree then some 63
  else none

end Alphabet

end SignedToken.Base64
