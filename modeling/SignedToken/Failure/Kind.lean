/-!
# Kinds of error

Errors form a tree below `JWSError`, so that a caller can treat a whole branch alike; an
unrecognized algorithm is a bad value besides.  A few general kinds stand outside the tree.
-/

namespace SignedToken

inductive ErrorKind where
  | jwsError
  | decodeError
  | invalidFormat
  | base64DecodeError
  | jsonDecodeError
  | encodeError
  | unrecognizedAlgorithm
  | algorithmDisabled
  | keyConstructionError
  | hmacKeyError
  | rsaKeyError
  | ecdsaKeyError
  | authError
  | missingToken
  | invalidToken
  | valueError
  | typeError
  | attributeError
  | lookupError
  | overflowError
  | runtimeError
  | recursionError
  | validationError
  | unicodeEncodeError
  | unsupportedAlgorithm
  deriving DecidableEq, Repr

namespace ErrorKind

def name : ErrorKind → String
  | .jwsError => "JWSError"
  | .decodeError => "DecodeError"
  | .invalidFormat => "InvalidFormat"
  | .base64DecodeError => "Base64DecodeError"
  | .jsonDecodeError => "JsonDecodeError"
  | .encodeError => "EncodeError"
  | .unrecognizedAlgorithm => "UnrecognizedAlgorithm"
  | .algorithmDisabled => "AlgorithmDisabled"
  | .keyConstructionError => "KeyConstructionError"
  | .hmacKeyError => "HmacKeyError"
  | .rsaKeyError => "RsaKeyError"
  | .ecdsaKeyError => "EcdsaKeyError"
  | .authError => "AuthError"
  | .missingToken => "MissingToken"
  | .invalidToken => "InvalidToken"
  | .valueError => "ValueError"
  | .typeError => "TypeError"
  | .attributeError => "AttributeError"
  | .lookupError => "LookupError"
  | .overflowError => "OverflowError"
  | .runtimeError => "RuntimeError"
  | .recursionError => "RecursionError"
  | .validationError => "ValidationError"
  | .unicodeEncodeError => "UnicodeEncodeError"
  | .unsupportedAlgorithm => "UnsupportedAlgorithm"

def all : List ErrorKind :=
  [.jwsError, .decodeError, .invalidFormat, .base64DecodeError, .jsonDecodeError, .encodeError,
    .unrecognizedAlgorithm, .algorithmDisabled, .keyConstructionError, .hmacKeyError, .rsaKeyError,
    .ecdsaKeyError, .authError, .missingToken, .invalidToken]

def named? (name : String) : Option ErrorKind := all.find? (·.name == name)

/-- A kind and what it is a case of, from the narrowest to the widest. -/
def lineage : ErrorKind → List ErrorKind
  | .jwsError => [.jwsError]
  | .decodeError => [.decodeError, .jwsError]
  | .invalidFormat => [.invalidFormat, .decodeError, .jwsError]
  | .base64DecodeError => [.base64DecodeError, .decodeError, .jwsError]
  | .jsonDecodeError => [.jsonDecodeError, .decodeError, .jwsError]
  | .encodeError => [.encodeError, .jwsError]
  | .unrecognizedAlgorithm => [.unrecognizedAlgorithm, .jwsError, .valueError]
  | .algorithmDisabled => [.algorithmDisabled, .jwsError]
  | .keyConstructionError => [.keyConstructionError, .jwsError]
  | .hmacKeyError => [.hmacKeyError, .keyConstructionError, .jwsError]
  | .rsaKeyError => [.rsaKeyError, .keyConstructionError, .jwsError]
  | .ecdsaKeyError => [.ecdsaKeyError, .keyConstructionError, .jwsError]
  | .authError => [.authError, .jwsError]
  | .missingToken => [.missingToken, .authError, .jwsError]
  | .invalidToken => [.invalidToken, .authError, .jwsError]
  | .valueError => [.valueError]
  | .typeError => [.typeError]
  | .attributeError => [.attributeError]
  | .lookupError => [.lookupError]
  | .overflowError => [.overflowError]
  | .runtimeError => [.runtimeError]
  | .recursionError => [.recursionError, .runtimeError]
  | .validationError => [.validationError, .valueError]
  | .unicodeEncodeError => [.unicodeEncodeError, .valueError]
  | .unsupportedAlgorithm => [.unsupportedAlgorithm]

/-- Whether errors of one kind count as errors of another. -/
def isCaseOf (kind ancestor : ErrorKind) : Bool := kind.lineage.contains ancestor

end ErrorKind

end SignedToken
