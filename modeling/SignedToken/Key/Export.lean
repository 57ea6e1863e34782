import SignedToken.Der.Basic
import SignedToken.Key.Basic
import SignedToken.Pem

/-!
# Writing keys

Keys are written in the general form and without encryption.  A point is written by both of its
coordinates, and a private key on a curve together with its public point.
-/

namespace SignedToken.Key

/-- The kind of a key: its identifier and its parameter. -/
def kindTree (identifier : Bytes) (parameter : Der) : Der :=
  .sequence [.identifier identifier, parameter]

def rsaKind : Der := kindTree rsaIdentifier .null

def curveKind (curve : Curve) : Der :=
  kindTree curveIdentifier (.identifier curve.params.identifier)

def rsaPrivateTree (parts : Rsa.Parts) : Der :=
  .sequence ([0, parts.modulus, parts.exponent, parts.secret, parts.first, parts.second,
    parts.firstSecret, parts.secondSecret, parts.coefficient].map Der.integer)

def curvePrivateTree (key : Curve.PrivateKey) : Der :=
  let curve := key.publicKey.curve
  .sequence [.integer 1, .octets (Bytes.ofNat curve.size key.scalar),
    .context 1 (.bits (Curve.encodePoint curve key.publicKey.point))]

def generalPrivateTree (kind : Der) (content : Der) : Der :=
  .sequence [.integer 0, kind, .octets content.encode]

def rsaPublicTree (key : Rsa.PublicKey) : Der :=
  .sequence [.integer key.modulus, .integer key.exponent]

def generalPublicTree (kind : Der) (content : Bytes) : Der := .sequence [kind, .bits content]

def rsaPrivateToPem (key : Rsa.PrivateKey) : Bytes :=
  Pem.encode privateLabel (generalPrivateTree rsaKind (rsaPrivateTree key.parts)).encode

def curvePrivateToPem (key : Curve.PrivateKey) : Bytes :=
  let kind := curveKind key.publicKey.curve
  Pem.encode privateLabel (generalPrivateTree kind (curvePrivateTree key)).encode

def rsaPublicToPem (key : Rsa.PublicKey) : Bytes :=
  Pem.encode publicLabel (generalPublicTree rsaKind (rsaPublicTree key).encode).encode

def curvePublicToPem (key : Curve.PublicKey) : Bytes :=
  let content := Curve.encodePoint key.curve key.point
  Pem.encode publicLabel (generalPublicTree (curveKind key.curve) content).encode

end SignedToken.Key
