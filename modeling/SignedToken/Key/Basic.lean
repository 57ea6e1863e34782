import SignedToken.Curve.Signature
import SignedToken.Rsa.Key

/-!
# Keys

A key file may hold keys of several kinds.  Two kinds are used for signatures; of the others it is
only known what they are called.
-/

namespace SignedToken.Key

inductive Private where
  | rsa (key : Rsa.PrivateKey)
  | curve (key : Curve.PrivateKey)
  | other (kind : String)

inductive Public where
  | rsa (key : Rsa.PublicKey)
  | curve (key : Curve.PublicKey)
  | other (kind : String)

def Private.kindName : Private → String
  | .rsa _ => "RSAPrivateKey"
  | .curve _ => "ECPrivateKey"
  | .other kind => kind ++ "PrivateKey"

def Public.kindName : Public → String
  | .rsa _ => "RSAPublicKey"
  | .curve _ => "ECPublicKey"
  | .other kind => kind ++ "PublicKey"

/-! ## Identifiers of kinds -/

def rsaIdentifier : Bytes := [0x2a, 0x86, 0x48, 0x86, 0xf7, 0x0d, 0x01, 0x01, 0x01]

/-- Key pairs from two primes that are meant for signatures with random padding. -/
def saltedRsaIdentifier : Bytes := [0x2a, 0x86, 0x48, 0x86, 0xf7, 0x0d, 0x01, 0x01, 0x0a]

def curveIdentifier : Bytes := [0x2a, 0x86, 0x48, 0xce, 0x3d, 0x02, 0x01]

/-! ## Labels of key files -/

def privateLabel : Bytes := Bytes.ofAscii "PRIVATE KEY"

def publicLabel : Bytes := Bytes.ofAscii "PUBLIC KEY"

def encryptedLabel : Bytes := Bytes.ofAscii "ENCRYPTED PRIVATE KEY"

def rsaPrivateLabel : Bytes := Bytes.ofAscii "RSA PRIVATE KEY"

def rsaPublicLabel : Bytes := Bytes.ofAscii "RSA PUBLIC KEY"

def curvePrivateLabel : Bytes := Bytes.ofAscii "EC PRIVATE KEY"

def dsaPrivateLabel : Bytes := Bytes.ofAscii "DSA PRIVATE KEY"

def privateLabels : List Bytes :=
  [privateLabel, encryptedLabel, rsaPrivateLabel, curvePrivateLabel, dsaPrivateLabel]

end SignedToken.Key
