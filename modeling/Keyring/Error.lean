/-
# Errors

* `ErrorKind` is the family of errors that this library reports, from its root to its leaves.
* `Reason` says what went wrong; it determines the kind of the error, its message, the field or
  name concerned and the kind of the error that caused it.
* `KeyError` is a reason with the key type concerned, where that is known.
* `Failure` is what a call may fail with: a `KeyError`, or one of the failures of settings, files
  and number ranges that are reported beside the family.
-/
namespace Keyring

/-! ## The family of errors -/

/-- The kinds of error. -/
inductive ErrorKind where
  | keyCore
  | malformedKeyData
  | keyValidation
  | invalidKeyVersion
  | invalidModulusSize
  | invalidPublicExponent
  | invalidKeyComponents
  | selfTestFailure
  | conflictingKeyId
  | registry
  | conflictingRegistration
  | policyViolation
  | incompatibleFipsMode
  | unknownKeyType
  | unsupportedPrimitive
  | registryNotEmpty
  | template
  | unknownTemplate
  | conflictingTemplate
deriving DecidableEq

namespace ErrorKind

/-- All kinds of error. -/
def all : List ErrorKind :=
  [keyCore, malformedKeyData, keyValidation, invalidKeyVersion, invalidModulusSize,
    invalidPublicExponent, invalidKeyComponents, selfTestFailure, conflictingKeyId, registry,
    conflictingRegistration, policyViolation, incompatibleFipsMode, unknownKeyType,
    unsupportedPrimitive, registryNotEmpty, template, unknownTemplate, conflictingTemplate]

/-- The name under which a kind of error is reported. -/
def name : ErrorKind → String
  | keyCore => "KeyCoreError"
  | malformedKeyData => "MalformedKeyDataError"
  | keyValidation => "KeyValidationError"
  | invalidKeyVersion => "InvalidKeyVersionError"
  | invalidModulusSize => "InvalidModulusSizeError"
  | invalidPublicExponent => "InvalidPublicExponentError"
  | invalidKeyComponents => "InvalidKeyComponentsError"
  | selfTestFailure => "SelfTestFailureError"
  | conflictingKeyId => "ConflictingKeyIdError"
  | registry => "RegistryError"
  | conflictingRegistration => "ConflictingRegistrationError"
  | policyViolation => "PolicyViolationError"
  | incompatibleFipsMode => "IncompatibleFipsModeError"
  | unknownKeyType => "UnknownKeyTypeError"
  | unsupportedPrimitive => "UnsupportedPrimitiveError"
  | registryNotEmpty => "RegistryNotEmptyError"
  | template => "TemplateError"
  | unknownTemplate => "UnknownTemplateError"
  | conflictingTemplate => "ConflictingTemplateError"

/-- The kind with a name. -/
def ofName? (s : String) : Option ErrorKind :=
  all.find? fun k => k.name = s

/-- The kinds that a kind specialises, itself first and the root of the family last. -/
def lineage : ErrorKind → List ErrorKind
  | keyCore => [keyCore]
  | invalidKeyVersion => [invalidKeyVersion, keyValidation, keyCore]
  | invalidModulusSize => [invalidModulusSize, keyValidation, keyCore]
  | invalidPublicExponent => [invalidPublicExponent, keyValidation, keyCore]
  | conflictingRegistration => [conflictingRegistration, registry, keyCore]
  | policyViolation => [policyViolation, registry, keyCore]
  | incompatibleFipsMode => [incompatibleFipsMode, registry, keyCore]
  | unknownKeyType => [unknownKeyType, registry, keyCore]
  | unsupportedPrimitive => [unsupportedPrimitive, registry, keyCore]
  | registryNotEmpty => [registryNotEmpty, registry, keyCore]
  | unknownTemplate => [unknownTemplate, template, keyCore]
  | conflictingTemplate => [conflictingTemplate, template, keyCore]
  | k => [k, keyCore]

end ErrorKind

/-! ## Reasons -/

/-- What went wrong. -/
inductive Reason where
  /-- An error that an application states in its own words. -/
  | stated (kind : ErrorKind) (text : String) (field? name? primitive? : Option String)
  | versionOutOfRange (version highest : Int)
  | modulusTooShort (bits : Int)
  | modulusNotFips (bits : Int)
  | exponentEven
  | exponentTooSmall (least : Nat)
  | malformed (message : String)
  | algorithmUnset
  | unknownAlgorithm (number : Int)
  | generationRefused (bits exponent : Int)
  | inconsistentComponents
  | unusablePublicKey
  | signingFailed
  | probeNotSigned
  | probeNotVerified (hash : String)
  /-- The crypto module rejected the parts of a key, for the reason with this message. -/
  | componentsRejected (message : String)
  | claimsNotWritable
  | callerKidBesideCustomKid
  | customKidMissing
  | customKidUnwanted (strategy : String)
  | newKeysDisallowed (keyType : String)
  | fipsInsufficient
  | otherClassRegistered (keyType existing candidate : String)
  | newKeysAlreadyDisallowed (keyType : String)
  | registryPopulated
  | keyTypeUnknown (keyType : String)
  | primitiveUnsupported (kind managerClass : String) (supported : List String)
  | templateUnknown (name : String)
  | templateConflict (name : String)
deriving DecidableEq

namespace Reason

/-- The kind of the error. -/
def kind : Reason → ErrorKind
  | stated kind .. => kind
  | versionOutOfRange .. => .invalidKeyVersion
  | modulusTooShort _ => .invalidModulusSize
  | modulusNotFips _ => .invalidModulusSize
  | exponentEven => .invalidPublicExponent
  | exponentTooSmall _ => .invalidPublicExponent
  | malformed _ => .malformedKeyData
  | algorithmUnset => .keyValidation
  | unknownAlgorithm _ => .keyValidation
  | generationRefused .. => .invalidPublicExponent
  | inconsistentComponents => .invalidKeyComponents
  | unusablePublicKey => .invalidKeyComponents
  | signingFailed => .keyCore
  | probeNotSigned => .selfTestFailure
  | probeNotVerified _ => .selfTestFailure
  | componentsRejected _ => .selfTestFailure
  | claimsNotWritable => .keyCore
  | callerKidBesideCustomKid => .conflictingKeyId
  | customKidMissing => .keyCore
  | customKidUnwanted _ => .conflictingKeyId
  | newKeysDisallowed _ => .policyViolation
  | fipsInsufficient => .incompatibleFipsMode
  | otherClassRegistered .. => .conflictingRegistration
  | newKeysAlreadyDisallowed _ => .policyViolation
  | registryPopulated => .registryNotEmpty
  | keyTypeUnknown _ => .unknownKeyType
  | primitiveUnsupported .. => .unsupportedPrimitive
  | templateUnknown _ => .unknownTemplate
  | templateConflict _ => .conflictingTemplate

/-- The message of the error. -/
def message : Reason → String
  | stated _ text .. => text
  | versionOutOfRange version highest =>
    s!"key has version {version}; only keys with version in range [0..{highest}] are supported"
  | modulusTooShort bits =>
    s!"modulus size is {bits}; only modulus size >= 2048-bit is supported"
  | modulusNotFips bits =>
    s!"modulus size is {bits}; only modulus size 2048 or 3072-bit is supported in FIPS mode"
  | exponentEven => "public exponent must be odd"
  | exponentTooSmall least => s!"public exponent must be greater than {least - 1}"
  | malformed message => s!"cannot parse {message}"
  | algorithmUnset => "algorithm must be one of RS256, RS384, RS512"
  | unknownAlgorithm number => s!"unknown RSA SSA PKCS1 algorithm {number}"
  | generationRefused bits exponent =>
    s!"crypto engine cannot generate RSA key (bits={bits}, e={exponent})"
  | inconsistentComponents => "inconsistent RSA private key components"
  | unusablePublicKey => "invalid RSA public key components"
  | signingFailed => "RSA sign failed"
  | probeNotSigned => "RSA PKCS1 self-test could not sign probe: RSA sign failed"
  | probeNotVerified hash =>
    s!"RSA PKCS1 self-test failed: probe signature does not verify ({hash})"
  | componentsRejected message => s!"key self-test failed: {message}"
  | claimsNotWritable => "JWT claims are not JSON-serializable"
  | callerKidBesideCustomKid => "custom_kid can only be set for keys that do not emit a key id"
  | customKidMissing => "custom kid strategy requires a custom_kid"
  | customKidUnwanted strategy => s!"custom_kid cannot be combined with kid strategy {strategy}"
  | newKeysDisallowed keyType => s!"new keys are disallowed for key type {keyType}"
  | fipsInsufficient => "cannot register key manager: FIPS compatibility insufficient"
  | otherClassRegistered keyType existing candidate =>
    s!"type url ({keyType}) is already registered with {existing}, "
      ++ s!"cannot be re-registered with {candidate}"
  | newKeysAlreadyDisallowed keyType => s!"new keys are already disallowed for key type {keyType}"
  | registryPopulated => "could not enable FIPS mode as registry is not empty"
  | keyTypeUnknown keyType => s!"no key manager found for key type {keyType}"
  | primitiveUnsupported kind managerClass supported =>
    s!"primitive kind {kind} not supported by key manager of type {managerClass}, "
      ++ "supported primitives: " ++ ", ".intercalate supported
  | templateUnknown name => s!"no parameters registered under name {name}"
  | templateConflict name =>
    s!"parameters object with name {name} already exists with a different value"

/-- The field of a key or a format that the error is about. -/
def field? : Reason → Option String
  | stated _ _ field? .. => field?
  | versionOutOfRange .. => some "version"
  | modulusTooShort _ => some "modulus_size_in_bits"
  | modulusNotFips _ => some "modulus_size_in_bits"
  | exponentEven => some "public_exponent"
  | exponentTooSmall _ => some "public_exponent"
  | algorithmUnset => some "algorithm"
  | unknownAlgorithm _ => some "algorithm"
  | generationRefused .. => some "public_exponent"
  | callerKidBesideCustomKid => some "kid"
  | customKidMissing => some "custom_kid"
  | customKidUnwanted _ => some "custom_kid"
  | _ => none

/-- The name of the template that the error is about. -/
def name? : Reason → Option String
  | stated _ _ _ name? _ => name?
  | templateUnknown name => some name
  | templateConflict name => some name
  | _ => none

/-- The kind of primitive that was asked for. -/
def primitive? : Reason → Option String
  | stated _ _ _ _ primitive? => primitive?
  | primitiveUnsupported kind .. => some kind
  | _ => none

/-- The kind of the error of this family that caused the error. -/
def cause? : Reason → Option ErrorKind
  | probeNotSigned => some .keyCore
  | componentsRejected _ => some .invalidKeyComponents
  | _ => none

end Reason

/-! ## Errors and failures -/

/-- An error of the family. -/
structure KeyError where
  reason : Reason
  /-- The key type concerned, where that is known. -/
  typeUrl? : Option String := none
deriving DecidableEq

namespace KeyError

/-- The kind of the error. -/
def kind (e : KeyError) : ErrorKind := e.reason.kind

/-- The message of the error. -/
def message (e : KeyError) : String := e.reason.message

end KeyError

/-- What is wrong with a value that is offered for a setting. -/
inductive SettingProblem where
  | unreadableTruth
  | noTruth
  | unreadableText
  | noText
  | noSetting
  | frozen
deriving DecidableEq

namespace SettingProblem

/-- The name under which a problem is reported. -/
def name : SettingProblem → String
  | unreadableTruth => "bool_parsing"
  | noTruth => "bool_type"
  | unreadableText => "string_unicode"
  | noText => "string_type"
  | noSetting => "extra_forbidden"
  | frozen => "frozen_instance"

end SettingProblem

/-- What a call may fail with. -/
inductive Failure where
  /-- An error of the family. -/
  | key (error : KeyError)
  /-- Values offered for settings, each with its problem. -/
  | settings (problems : List (String × SettingProblem))
  /-- A document that does not follow its grammar. -/
  | document
  /-- A file that is not UTF-8. -/
  | encoding
  /-- A directory where a file is expected. -/
  | directory
  /-- A file that may not be opened. -/
  | denied
  /-- A text that is not Unicode. -/
  | unencodable
  /-- A number outside the range of its field or too long to be written, or a text that names no
  value. -/
  | range
  /-- An infinite number where a whole one is expected. -/
  | infinite
  /-- A negative number as key material. -/
  | negative
  /-- Values that do not fit the operation. -/
  | mismatch
  /-- A key that a dictionary does not have. -/
  | missing
  /-- A request that this kind of object does not serve. -/
  | unserved
  /-- A log field under a name that every record has already. -/
  | reserved
  /-- A failure of something that this library calls, in words of its own. -/
  | foreign
deriving DecidableEq

namespace Failure

/-- Whether the failure is an error of the family. -/
def isKeyError : Failure → Bool
  | key _ => true
  | _ => false

end Failure

/-- Fails with a reason and the key type concerned. -/
def refuse {α : Type} (reason : Reason) (typeUrl? : Option String := none) : Except KeyError α :=
  .error ⟨reason, typeUrl?⟩

end Keyring
