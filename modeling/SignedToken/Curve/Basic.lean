import SignedToken.Algorithm
import SignedToken.Bytes

/-!
# Named curves

A curve is the set of points with `y * y = x * x * x + a * x + b` modulo a prime, and a base point
whose multiples are a group of prime order.  Each digest has the curve that it signs on.
-/

namespace SignedToken

inductive Curve where
  | p192
  | p224
  | p256
  | k256
  | b256
  | p384
  | b384
  | b512
  | p521
  deriving DecidableEq, Repr

namespace Curve

structure Params where
  prime : Nat
  a : Nat
  b : Nat
  baseX : Nat
  baseY : Nat
  order : Nat
  /-- What names the curve in a key file. -/
  identifier : Bytes

/-- A large number in parts of 256 bits, the highest one first. -/
def ofParts (parts : List Nat) : Nat :=
  parts.foldl (fun number part => number <<< 256 + part) 0

def secp192r1 : Params where
  prime :=
    0xfffffffffffffffffffffffffffffffeffffffffffffffff
  a :=
    0xfffffffffffffffffffffffffffffffefffffffffffffffc
  b :=
    0x64210519e59c80e70fa7e9ab72243049feb8deecc146b9b1
  baseX :=
    0x188da80eb03090f67cbf20eb43a18800f4ff0afd82ff1012
  baseY :=
    0x7192b95ffc8da78631011ed6b24cdd573f977a11e794811
  order :=
    0xffffffffffffffffffffffff99def836146bc9b1b4d22831
  identifier := [0x2a, 0x86, 0x48, 0xce, 0x3d, 0x03, 0x01, 0x01]

def secp224r1 : Params where
  prime :=
    0xffffffffffffffffffffffffffffffff000000000000000000000001
  a :=
    0xfffffffffffffffffffffffffffffffefffffffffffffffffffffffe
  b :=
    0xb4050a850c04b3abf54132565044b0b7d7bfd8ba270b39432355ffb4
  baseX :=
    0xb70e0cbd6bb4bf7f321390b94a03c1d356c21122343280d6115c1d21
  baseY :=
    0xbd376388b5f723fb4c22dfe6cd4375a05a07476444d5819985007e34
  order :=
    0xffffffffffffffffffffffffffff16a2e0b8f03e13dd29455c5c2a3d
  identifier := [0x2b, 0x81, 0x04, 0x00, 0x21]

def secp256r1 : Params where
  prime :=
    0xffffffff00000001000000000000000000000000ffffffffffffffffffffffff
  a :=
    0xffffffff00000001000000000000000000000000fffffffffffffffffffffffc
  b :=
    0x5ac635d8aa3a93e7b3ebbd55769886bc651d06b0cc53b0f63bce3c3e27d2604b
  baseX :=
    0x6b17d1f2e12c4247f8bce6e563a440f277037d812deb33a0f4a13945d898c296
  baseY :=
    0x4fe342e2fe1a7f9b8ee7eb4a7c0f9e162bce33576b315ececbb6406837bf51f5
  order :=
    0xffffffff00000000ffffffffffffffffbce6faada7179e84f3b9cac2fc632551
  identifier := [0x2a, 0x86, 0x48, 0xce, 0x3d, 0x03, 0x01, 0x07]

def secp256k1 : Params where
  prime :=
    0xfffffffffffffffffffffffffffffffffffffffffffffffffffffffefffffc2f
  a := 0
  b := 7
  baseX :=
    0x79be667ef9dcbbac55a06295ce870b07029bfcdb2dce28d959f2815b16f81798
  baseY :=
    0x483ada7726a3c4655da4fbfc0e1108a8fd17b448a68554199c47d08ffb10d4b8
  order :=
    0xfffffffffffffffffffffffffffffffebaaedce6af48a03bbfd25e8cd0364141
  identifier := [0x2b, 0x81, 0x04, 0x00, 0x0a]

def secp384r1 : Params where
  prime :=
    ofParts [0xffffffffffffffffffffffffffffffff,
      0xfffffffffffffffffffffffffffffffeffffffff0000000000000000ffffffff]
  a :=
    ofParts [0xffffffffffffffffffffffffffffffff,
      0xfffffffffffffffffffffffffffffffeffffffff0000000000000000fffffffc]
  b :=
    ofParts [0xb3312fa7e23ee7e4988e056be3f82d19,
      0x181d9c6efe8141120314088f5013875ac656398d8a2ed19d2a85c8edd3ec2aef]
  baseX :=
    ofParts [0xaa87ca22be8b05378eb1c71ef320ad74,
      0x6e1d3b628ba79b9859f741e082542a385502f25dbf55296c3a545e3872760ab7]
  baseY :=
    ofParts [0x3617de4a96262c6f5d9e98bf9292dc29,
      0xf8f41dbd289a147ce9da3113b5f0b8c00a60b1ce1d7e819d7a431d7c90ea0e5f]
  order :=
    ofParts [0xffffffffffffffffffffffffffffffff,
      0xffffffffffffffffc7634d81f4372ddf581a0db248b0a77aecec196accc52973]
  identifier := [0x2b, 0x81, 0x04, 0x00, 0x22]

def secp521r1 : Params where
  prime :=
    ofParts [0x1ff,
      0xffffffffffffffffffffffffffffffffffffffffffffffffffffffffffffffff,
      0xffffffffffffffffffffffffffffffffffffffffffffffffffffffffffffffff]
  a :=
    ofParts [0x1ff,
      0xffffffffffffffffffffffffffffffffffffffffffffffffffffffffffffffff,
      0xfffffffffffffffffffffffffffffffffffffffffffffffffffffffffffffffc]
  b :=
    ofParts [0x51,
      0x953eb9618e1c9a1f929a21a0b68540eea2da725b99b315f3b8b489918ef109e1,
      0x56193951ec7e937b1652c0bd3bb1bf073573df883d2c34f1ef451fd46b503f00]
  baseX :=
    ofParts [0xc6,
      0x858e06b70404e9cd9e3ecb662395b4429c648139053fb521f828af606b4d3dba,
      0xa14b5e77efe75928fe1dc127a2ffa8de3348b3c1856a429bf97e7e31c2e5bd66]
  baseY :=
    ofParts [0x118,
      0x39296a789a3bc0045c8a5fb42c7d1bd998f54449579b446817afbd17273e662c,
      0x97ee72995ef42640c550b9013fad0761353c7086a272c24088be94769fd16650]
  order :=
    ofParts [0x1ff,
      0xfffffffffffffffffffffffffffffffffffffffffffffffffffffffffffffffa,
      0x51868783bf2f966b7fcc0148f709a5d03bb5c9b8899c47aebb6fb71e91386409]
  identifier := [0x2b, 0x81, 0x04, 0x00, 0x23]

def brainpoolP256r1 : Params where
  prime :=
    0xa9fb57dba1eea9bc3e660a909d838d726e3bf623d52620282013481d1f6e5377
  a :=
    0x7d5a0975fc2c3057eef67530417affe7fb8055c126dc5c6ce94a4b44f330b5d9
  b :=
    0x26dc5c6ce94a4b44f330b5d9bbd77cbf958416295cf7e1ce6bccdc18ff8c07b6
  baseX :=
    0x8bd2aeb9cb7e57cb2c4b482ffc81b7afb9de27e1e3bd23c23a4453bd9ace3262
  baseY :=
    0x547ef835c3dac4fd97f8461a14611dc9c27745132ded8e545c1d54c72f046997
  order :=
    0xa9fb57dba1eea9bc3e660a909d838d718c397aa3b561a6f7901e0e82974856a7
  identifier := [0x2b, 0x24, 0x03, 0x03, 0x02, 0x08, 0x01, 0x01, 0x07]

def brainpoolP384r1 : Params where
  prime :=
    ofParts [0x8cb91e82a3386d280f5d6f7e50e641df,
      0x152f7109ed5456b412b1da197fb71123acd3a729901d1a71874700133107ec53]
  a :=
    ofParts [0x7bc382c63d8c150c3c72080ace05afa0,
      0xc2bea28e4fb22787139165efba91f90f8aa5814a503ad4eb04a8c7dd22ce2826]
  b :=
    ofParts [0x4a8c7dd22ce28268b39b55416f0447c,
      0x2fb77de107dcd2a62e880ea53eeb62d57cb4390295dbc9943ab78696fa504c11]
  baseX :=
    ofParts [0x1d1c64f068cf45ffa2a63a81b7c13f6b,
      0x8847a3e77ef14fe3db7fcafe0cbd10e8e826e03436d646aaef87b2e247d4af1e]
  baseY :=
    ofParts [0x8abe1d7520f9c2a45cb1eb8e95cfd552,
      0x62b70b29feec5864e19c054ff99129280e4646217791811142820341263c5315]
  order :=
    ofParts [0x8cb91e82a3386d280f5d6f7e50e641df,
      0x152f7109ed5456b31f166e6cac0425a7cf3ab6af6b7fc3103b883202e9046565]
  identifier := [0x2b, 0x24, 0x03, 0x03, 0x02, 0x08, 0x01, 0x01, 0x0b]

def brainpoolP512r1 : Params where
  prime :=
    ofParts [0xaadd9db8dbe9c48b3fd4e6ae33c9fc07cb308db3b3c9d20ed6639cca70330871,
      0x7d4d9b009bc66842aecda12ae6a380e62881ff2f2d82c68528aa6056583a48f3]
  a :=
    ofParts [0x7830a3318b603b89e2327145ac234cc594cbdd8d3df91610a83441caea9863bc,
      0x2ded5d5aa8253aa10a2ef1c98b9ac8b57f1117a72bf2c7b9e7c1ac4d77fc94ca]
  b :=
    ofParts [0x3df91610a83441caea9863bc2ded5d5aa8253aa10a2ef1c98b9ac8b57f1117a7,
      0x2bf2c7b9e7c1ac4d77fc94cadc083e67984050b75ebae5dd2809bd638016f723]
  baseX :=
    ofParts [0x81aee4bdd82ed9645a21322e9c4c6a9385ed9f70b5d916c1b43b62eef4d0098e,
      0xff3b1f78e2d0d48d50d1687b93b97d5f7c6d5047406a5e688b352209bcb9f822]
  baseY :=
    ofParts [0x7dde385d566332ecc0eabfa9cf7822fdf209f70024a57b1aa000c55b881f8111,
      0xb2dcde494a5f485e5bca4bd88a2763aed1ca2b2fa8f0540678cd1e0f3ad80892]
  order :=
    ofParts [0xaadd9db8dbe9c48b3fd4e6ae33c9fc07cb308db3b3c9d20ed6639cca70330870,
      0x553e5c414ca92619418661197fac10471db1d381085ddaddb58796829ca90069]
  identifier := [0x2b, 0x24, 0x03, 0x03, 0x02, 0x08, 0x01, 0x01, 0x0d]

def params : Curve → Params
  | .p192 => secp192r1
  | .p224 => secp224r1
  | .p256 => secp256r1
  | .k256 => secp256k1
  | .b256 => brainpoolP256r1
  | .p384 => secp384r1
  | .b384 => brainpoolP384r1
  | .b512 => brainpoolP512r1
  | .p521 => secp521r1

def name : Curve → String
  | .p192 => "secp192r1"
  | .p224 => "secp224r1"
  | .p256 => "secp256r1"
  | .k256 => "secp256k1"
  | .b256 => "brainpoolP256r1"
  | .p384 => "secp384r1"
  | .b384 => "brainpoolP384r1"
  | .b512 => "brainpoolP512r1"
  | .p521 => "secp521r1"

/-- The number of bits of the prime, by which the size of keys is told. -/
def bits : Curve → Nat
  | .p192 => 192
  | .p224 => 224
  | .p256 => 256
  | .k256 => 256
  | .b256 => 256
  | .p384 => 384
  | .b384 => 384
  | .b512 => 512
  | .p521 => 521

def size (curve : Curve) : Nat := Bytes.bytesFor curve.bits

def all : List Curve := [.p192, .p224, .p256, .k256, .b256, .p384, .b384, .b512, .p521]

/-- The curve that signatures with a digest are made on. -/
def ofDigest : Digest → Curve
  | .sha256 => .p256
  | .sha384 => .p384
  | .sha512 => .p521

def ofIdentifier? (identifier : Bytes) : Option Curve :=
  all.find? (·.params.identifier == identifier)

end Curve

end SignedToken
