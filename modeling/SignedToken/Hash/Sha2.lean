import SignedToken.Algorithm
import SignedToken.Bytes

/-!
# Digest functions

One construction with two word sizes: a message is padded to whole blocks, and each block is mixed
into a state of eight words in as many rounds as there are round constants.  The shorter word size
takes the upper halves of the constants of the longer one.
-/

namespace SignedToken.Sha2

/-- The fraction bits of the cube roots of the first eighty primes. -/
def cubeRoots : List Nat :=
  [0x428a2f98d728ae22, 0x7137449123ef65cd, 0xb5c0fbcfec4d3b2f, 0xe9b5dba58189dbbc,
    0x3956c25bf348b538, 0x59f111f1b605d019, 0x923f82a4af194f9b, 0xab1c5ed5da6d8118,
    0xd807aa98a3030242, 0x12835b0145706fbe, 0x243185be4ee4b28c, 0x550c7dc3d5ffb4e2,
    0x72be5d74f27b896f, 0x80deb1fe3b1696b1, 0x9bdc06a725c71235, 0xc19bf174cf692694,
    0xe49b69c19ef14ad2, 0xefbe4786384f25e3, 0x0fc19dc68b8cd5b5, 0x240ca1cc77ac9c65,
    0x2de92c6f592b0275, 0x4a7484aa6ea6e483, 0x5cb0a9dcbd41fbd4, 0x76f988da831153b5,
    0x983e5152ee66dfab, 0xa831c66d2db43210, 0xb00327c898fb213f, 0xbf597fc7beef0ee4,
    0xc6e00bf33da88fc2, 0xd5a79147930aa725, 0x06ca6351e003826f, 0x142929670a0e6e70,
    0x27b70a8546d22ffc, 0x2e1b21385c26c926, 0x4d2c6dfc5ac42aed, 0x53380d139d95b3df,
    0x650a73548baf63de, 0x766a0abb3c77b2a8, 0x81c2c92e47edaee6, 0x92722c851482353b,
    0xa2bfe8a14cf10364, 0xa81a664bbc423001, 0xc24b8b70d0f89791, 0xc76c51a30654be30,
    0xd192e819d6ef5218, 0xd69906245565a910, 0xf40e35855771202a, 0x106aa07032bbd1b8,
    0x19a4c116b8d2d0c8, 0x1e376c085141ab53, 0x2748774cdf8eeb99, 0x34b0bcb5e19b48a8,
    0x391c0cb3c5c95a63, 0x4ed8aa4ae3418acb, 0x5b9cca4f7763e373, 0x682e6ff3d6b2b8a3,
    0x748f82ee5defb2fc, 0x78a5636f43172f60, 0x84c87814a1f0ab72, 0x8cc702081a6439ec,
    0x90befffa23631e28, 0xa4506cebde82bde9, 0xbef9a3f7b2c67915, 0xc67178f2e372532b,
    0xca273eceea26619c, 0xd186b8c721c0c207, 0xeada7dd6cde0eb1e, 0xf57d4f7fee6ed178,
    0x06f067aa72176fba, 0x0a637dc5a2c898a6, 0x113f9804bef90dae, 0x1b710b35131c471b,
    0x28db77f523047d84, 0x32caab7b40c72493, 0x3c9ebe0a15c9bebc, 0x431d67c49c100d4c,
    0x4cc5d4becb3e42b6, 0x597f299cfc657e2a, 0x5fcb6fab3ad6faec, 0x6c44198c4a475817]

/-- The fraction bits of the square roots of the first eight primes. -/
def squareRoots : List Nat :=
  [0x6a09e667f3bcc908, 0xbb67ae8584caa73b, 0x3c6ef372fe94f82b, 0xa54ff53a5f1d36f1,
    0x510e527fade682d1, 0x9b05688c2b3e6c1f, 0x1f83d9abfb41bd6b, 0x5be0cd19137e2179]

/-- The fraction bits of the square roots of the next eight primes. -/
def laterSquareRoots : List Nat :=
  [0xcbbb9d5dc1059ed8, 0x629a292a367cd507, 0x9159015a3070dd17, 0x152fecd8f70e5939,
    0x67332667ffc00b31, 0x8eb44a8768581511, 0xdb0c2e0d64f98fa7, 0x47b5481dbefa4fa4]

/-- What tells the two word sizes apart.  Rotations come in threes; the last step of the two
schedule mixers is a shift. -/
structure Params (width : Nat) where
  constants : List (BitVec width)
  sumA : Nat × Nat × Nat
  sumE : Nat × Nat × Nat
  early : Nat × Nat × Nat
  late : Nat × Nat × Nat

def upperHalf (word : Nat) : BitVec 32 := BitVec.ofNat 32 (word / 0x100000000)

def short : Params 32 :=
  ⟨(cubeRoots.take 64).map upperHalf, (2, 13, 22), (6, 11, 25), (7, 18, 3), (17, 19, 10)⟩

def long : Params 64 :=
  ⟨cubeRoots.map (BitVec.ofNat 64), (28, 34, 39), (14, 18, 41), (1, 8, 7), (19, 61, 6)⟩

structure State (width : Nat) where
  a : BitVec width
  b : BitVec width
  c : BitVec width
  d : BitVec width
  e : BitVec width
  f : BitVec width
  g : BitVec width
  h : BitVec width

def State.words {width : Nat} (state : State width) : List (BitVec width) :=
  [state.a, state.b, state.c, state.d, state.e, state.f, state.g, state.h]

/-- The state of eight words; words that are not there are zero. -/
def State.ofWords {width : Nat} (words : List (BitVec width)) : State width :=
  let word (index : Nat) : BitVec width := words.getD index 0
  ⟨word 0, word 1, word 2, word 3, word 4, word 5, word 6, word 7⟩

def State.add {width : Nat} (left right : State width) : State width where
  a := left.a + right.a
  b := left.b + right.b
  c := left.c + right.c
  d := left.d + right.d
  e := left.e + right.e
  f := left.f + right.f
  g := left.g + right.g
  h := left.h + right.h

def rotations {width : Nat} (amounts : Nat × Nat × Nat) (word : BitVec width) : BitVec width :=
  word.rotateRight amounts.1 ^^^ word.rotateRight amounts.2.1 ^^^ word.rotateRight amounts.2.2

def mixer {width : Nat} (amounts : Nat × Nat × Nat) (word : BitVec width) : BitVec width :=
  word.rotateRight amounts.1 ^^^ word.rotateRight amounts.2.1 ^^^ word.ushiftRight amounts.2.2

def round {width : Nat} (params : Params width) (state : State width)
    (constant word : BitVec width) : State width :=
  let choice := (state.e &&& state.f) ^^^ (~~~state.e &&& state.g)
  let majority := (state.a &&& state.b) ^^^ (state.a &&& state.c) ^^^ (state.b &&& state.c)
  let first := state.h + rotations params.sumE state.e + choice + constant + word
  let second := rotations params.sumA state.a + majority
  ⟨first + second, state.a, state.b, state.c, state.d + first, state.e, state.f, state.g⟩

/-- The schedule word that follows a window of sixteen. -/
def nextWord {width : Nat} (params : Params width) (window : List (BitVec width)) : BitVec width :=
  window.getD 0 0 + mixer params.early (window.getD 1 0) + window.getD 9 0 +
    mixer params.late (window.getD 14 0)

/-- The rounds with the given constants; the window moves on by a word each round. -/
def rounds {width : Nat} (params : Params width) :
    List (BitVec width) → List (BitVec width) → State width → State width
  | [], _, state => state
  | constant :: rest, window, state =>
    rounds params rest (window.drop 1 ++ [nextWord params window])
      (round params state constant (window.getD 0 0))

/-- Mixes a block of sixteen words into a state. -/
def compress {width : Nat} (params : Params width) (state : State width)
    (block : List (BitVec width)) : State width :=
  state.add (rounds params params.constants block state)

/-- The pieces of a list with `size` items each, the last one possibly shorter; `fuel` bounds their
number. -/
def chunksFrom {α : Type} (size : Nat) : (fuel : Nat) → List α → List (List α)
  | 0, _ => []
  | fuel + 1, items =>
    if items.isEmpty then [] else items.take size :: chunksFrom size fuel (items.drop size)

def chunks {α : Type} (size : Nat) (items : List α) : List (List α) :=
  chunksFrom size items.length items

/-- A message with a one bit, zeros and its length in bits, in whole blocks. -/
def pad (blockSize : Nat) (message : Bytes) : Bytes :=
  let lengthSize := blockSize / 8
  let used := (message.length + 1 + lengthSize) % blockSize
  message ++ 0x80 :: List.replicate ((blockSize - used) % blockSize) 0 ++
    Bytes.ofNat lengthSize (8 * message.length)

def run {width : Nat} (params : Params width) (initial : List (BitVec width)) (message : Bytes) :
    Bytes :=
  let wordSize := width / 8
  let words := (chunks wordSize (pad (16 * wordSize) message)).map fun bytes =>
    BitVec.ofNat width (Bytes.toNat bytes)
  let final := (chunks 16 words).foldl (compress params) (State.ofWords initial)
  final.words.flatMap fun word => Bytes.ofNat wordSize word.toNat

end SignedToken.Sha2

namespace SignedToken.Digest

def hash (digest : Digest) (message : Bytes) : Bytes :=
  let full :=
    match digest with
    | .sha256 => Sha2.run Sha2.short (Sha2.squareRoots.map Sha2.upperHalf) message
    | .sha384 => Sha2.run Sha2.long (Sha2.laterSquareRoots.map (BitVec.ofNat 64)) message
    | .sha512 => Sha2.run Sha2.long (Sha2.squareRoots.map (BitVec.ofNat 64)) message
  full.take digest.size

end SignedToken.Digest
