import SignedToken.Base64.Url
import SignedToken.Claims.Shown
import SignedToken.Failure.Refusal

/-!
# Failures

Everything that can go wrong, by its cause.  `message` words a failure; failures that a caller
brings about by a wrong use of a value have no wording.  Messages never hold keys or signatures.
-/

namespace SignedToken

inductive DecodeFailure where
  | notText
  | notThreeSegments
  | base64 (failure : Base64.Url.Failure)
  | claims (issues : List Issue)
  | header (issues : List Issue)
  | unknownAlgorithm (name : Value) (accepted : List String)

inductive KeyFailure where
  | secretKind (kind : String)
  | emptySecret
  | asymmetricSecret
  | jwkSecret
  | pemKind (kind : String)
  | pemNotAscii
  | unreadablePrivate
  | unreadablePublic
  | notGenerated
  | notPrivate (kind : String)
  | notPublic (kind : String)
  | wrongCurve (algorithm : Algorithm) (wanted found : String)

/-- What the loader of keys says of a file without a key. -/
inductive LoadFault where
  /-- The parts of the file do not fit together. -/
  | malformed
  /-- The key is encrypted, and no password is given. -/
  | encrypted
  /-- The kind of the key is not known. -/
  | unsupported
  deriving DecidableEq, Repr

inductive Failure where
  | decode (failure : DecodeFailure)
  | unwritable
  | unrecognized (name : Value) (accepted : List String)
  | disabled (algorithm : Algorithm)
  | key (family : Family) (failure : KeyFailure)
  /-- The loader of keys says something that nobody takes up. -/
  | load (fault : LoadFault)
  | refused (refusal : Refusal)
  | blankScheme
  | blankCookieName
  /-- A key holder is asked for something that its kind cannot do. -/
  | lacking (holder operation : String)
  /-- A caller asks a value for something that its kind does not have. -/
  | misused
  /-- A caller gives arguments that do not fit. -/
  | wrongArguments
  /-- A number is too large for what it is given for. -/
  | outOfRange
  /-- The modulus of a key is too small for the digest that is to be signed. -/
  | keyTooSmall
  /-- What is given for a setting or for the fields of a record is refused. -/
  | rejected (issues : List Issue)
  /-- A field of a request holds a line break. -/
  | lineBreak
  /-- A request is to end with a status that no error page has. -/
  | unknownStatus
  /-- Something that a caller supplied went wrong by itself. -/
  | broken
  /-- A value that is to be shown lies too deep. -/
  | tooDeep
  /-- A text that holds a lone surrogate is to be written as UTF-8. -/
  | notEncodable

/-- What is said of a name before the names are listed that would have been recognized. -/
def unrecognizedStart (name : Value) : String :=
  "unrecognized algorithm " ++ name.shown ++ ", expected one of: "

/-- What is said of a name that no enabled algorithm has. -/
def unrecognizedMessage (name : Value) (accepted : List String) : String :=
  unrecognizedStart name ++ Value.listed accepted

def depthMessage : String :=
  "maximum recursion depth exceeded while getting the repr of an object"

namespace DecodeFailure

def kind : DecodeFailure → ErrorKind
  | .notText => .invalidFormat
  | .notThreeSegments => .invalidFormat
  | .base64 _ => .base64DecodeError
  | .claims _ => .jsonDecodeError
  | .header _ => .jsonDecodeError
  | .unknownAlgorithm .. => .jsonDecodeError

def formatMessage : String := "the JWT is formatted incorrectly (not 3 parts separated by dots)"

def message : DecodeFailure → String
  | .notText => "the JWT must be a string"
  | .notThreeSegments => formatMessage
  | .base64 failure => failure.message
  | .claims _ => "invalid json"
  | .header _ => "invalid header"
  | .unknownAlgorithm name accepted => "invalid header: " ++ unrecognizedMessage name accepted

/-- What a check of a document found, if that is why reading failed. -/
def issues : DecodeFailure → Option (List Issue)
  | .claims issues => some issues
  | .header issues => some issues
  | _ => none

end DecodeFailure

namespace KeyFailure

/-- A family with its article, as keys are called by it. -/
def article : Family → String
  | .hmac => "an HMAC"
  | .rsa => "an RSA"
  | .ecdsa => "an EC"

def kind : Family → ErrorKind
  | .hmac => .hmacKeyError
  | .rsa => .rsaKeyError
  | .ecdsa => .ecdsaKeyError

def message (family : Family) : KeyFailure → String
  | .secretKind kind => "HMAC key must be str or bytes, not " ++ kind
  | .emptySecret => "HMAC key must not be empty"
  | .asymmetricSecret =>
    "The specified key is an asymmetric key or x509 certificate and should not be used as an " ++
      "HMAC secret."
  | .jwkSecret =>
    "The specified key looks like a JWK and should not be used directly as an HMAC secret. " ++
      "Load it via PyJWK / HMACAlgorithm.from_jwk first."
  | .pemKind kind => "PEM must be str or bytes, not " ++ kind
  | .pemNotAscii => "PEM text must be ASCII"
  | .unreadablePrivate => "could not load private key"
  | .unreadablePublic => "could not load public key"
  | .notGenerated => "could not generate key"
  | .notPrivate kind => "expected " ++ article family ++ " private key, got " ++ kind
  | .notPublic kind => "expected " ++ article family ++ " public key, got " ++ kind
  | .wrongCurve algorithm wanted found =>
    algorithm.name ++ " requires curve " ++ wanted ++ ", got " ++ found

end KeyFailure

def LoadFault.kind : LoadFault → ErrorKind
  | .malformed => .valueError
  | .encrypted => .typeError
  | .unsupported => .unsupportedAlgorithm

namespace Failure

def kind : Failure → ErrorKind
  | .decode failure => failure.kind
  | .unwritable => .encodeError
  | .unrecognized .. => .unrecognizedAlgorithm
  | .disabled _ => .algorithmDisabled
  | .key family _ => KeyFailure.kind family
  | .load fault => fault.kind
  | .refused refusal => refusal.kind.kind
  | .blankScheme => .valueError
  | .blankCookieName => .valueError
  | .lacking .. => .attributeError
  | .misused => .attributeError
  | .wrongArguments => .typeError
  | .outOfRange => .overflowError
  | .keyTooSmall => .valueError
  | .rejected _ => .validationError
  | .lineBreak => .valueError
  | .unknownStatus => .lookupError
  | .broken => .runtimeError
  | .tooDeep => .recursionError
  | .notEncodable => .unicodeEncodeError

def disabledMessage (algorithm : Algorithm) : String :=
  "algorithm " ++ algorithm.name ++ " is disabled (backend " ++
    Quoted.text algorithm.family.label ++ " unavailable or turned off in settings)"

def message : Failure → Option Text
  | .decode failure => some failure.message
  | .unwritable => some "could not encode value"
  | .unrecognized name accepted => some (unrecognizedMessage name accepted)
  | .disabled algorithm => some (disabledMessage algorithm)
  | .key family failure => some (failure.message family)
  | .load _ => none
  | .refused refusal => some refusal.message
  | .blankScheme => some "header_name and scheme cannot be empty"
  | .blankCookieName => some "cookie_name cannot be empty"
  | .lacking holder operation =>
    some ("'" ++ holder ++ "' object has no attribute '" ++ operation ++ "'")
  | .misused => none
  | .wrongArguments => none
  | .outOfRange => none
  | .keyTooSmall => none
  | .rejected _ => none
  | .lineBreak => none
  | .unknownStatus => none
  | .broken => none
  | .tooDeep => some depthMessage
  | .notEncodable => none

def issues : Failure → Option (List Issue)
  | .decode failure => failure.issues
  | .refused refusal => refusal.issues
  | .rejected issues => some issues
  | _ => none

end Failure

/-- The bytes of a text as UTF-8, or the failure to write it so. -/
def Text.encoded (text : Text) : Except Failure Bytes :=
  match text.utf8? with
  | some bytes => .ok bytes
  | none => .error .notEncodable

end SignedToken
