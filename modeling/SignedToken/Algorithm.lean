/-!
# Signature algorithms

A signature algorithm joins a family with a digest.  Its name is the code of the family followed by
the size of the digest in bits, and names are told apart by case.
-/

namespace SignedToken

/-- The three digest functions; a digest has 256, 384 or 512 bits. -/
inductive Digest where
  | sha256
  | sha384
  | sha512
  deriving DecidableEq, Repr

namespace Digest

def bits : Digest → Nat
  | .sha256 => 256
  | .sha384 => 384
  | .sha512 => 512

def size (digest : Digest) : Nat := digest.bits / 8

/-- The bytes that the digest function takes in at a time. -/
def blockSize : Digest → Nat
  | .sha256 => 64
  | .sha384 => 128
  | .sha512 => 128

def all : List Digest := [.sha256, .sha384, .sha512]

end Digest

/-- How signatures are made: with a shared secret, or with the private half of a key pair. -/
inductive Family where
  | hmac
  | rsa
  | ecdsa
  deriving DecidableEq, Repr

namespace Family

def label : Family → String
  | .hmac => "hmac-sha2"
  | .rsa => "rsa-pkcs1"
  | .ecdsa => "ecdsa"

/-- The letters that names of algorithms begin with. -/
def code : Family → String
  | .hmac => "HS"
  | .rsa => "RS"
  | .ecdsa => "ES"

/-- Key pairs need big-number arithmetic, which an installation may lack. -/
def needsKeyPairs : Family → Bool
  | .hmac => false
  | .rsa => true
  | .ecdsa => true

def all : List Family := [.hmac, .rsa, .ecdsa]

end Family

structure Algorithm where
  family : Family
  digest : Digest
  deriving DecidableEq, Repr

namespace Algorithm

def name (algorithm : Algorithm) : String :=
  algorithm.family.code ++ toString algorithm.digest.bits

/-- The table of algorithms, in the order in which they are listed to users. -/
def all : List Algorithm :=
  Family.all.flatMap fun family => Digest.all.map fun digest => ⟨family, digest⟩

theorem mem_all (algorithm : Algorithm) : algorithm ∈ all := by
  obtain ⟨family, digest⟩ := algorithm
  cases family <;> cases digest <;> decide

def ofName? (name : String) : Option Algorithm := all.find? (·.name == name)

end Algorithm

/-- What a token declares: a signature algorithm, or that it is not signed. -/
abbrev Declared := Option Algorithm

namespace Declared

def unsignedName : String := "none"

def name (declared : Declared) : String := (declared.map Algorithm.name).getD unsignedName

/-- The name that is shown to people. -/
def shown (declared : Declared) : String := (declared.map Algorithm.name).getD "<none>"

end Declared

end SignedToken
