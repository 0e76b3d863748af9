/-
# Key managers

A key manager serves one key type: it reads and checks keys and makes primitives from them.  This
library brings the manager of JWT signing keys; applications bring managers of their own, whose keys
are plain bytes here.

Every manager is an instance with a serial number.  The manager of JWT signing keys sees the FIPS
policy with the number that it was made with, so that a later restriction reaches it.
-/
import Keyring.Error
import Keyring.Fips
import Keyring.Bytes
import Keyring.Jwt.Algorithm

namespace Keyring

/-- What a key manager can make. -/
inductive PrimitiveKind where
  | jwtPublicKeySign
  | jwtPublicKeyVerify
  | publicKeySign
  | publicKeyVerify
deriving DecidableEq

namespace PrimitiveKind

/-- The name of a kind. -/
def name : PrimitiveKind → String
  | jwtPublicKeySign => "jwt_public_key_sign"
  | jwtPublicKeyVerify => "jwt_public_key_verify"
  | publicKeySign => "public_key_sign"
  | publicKeyVerify => "public_key_verify"

/-- The kind with a name. -/
def ofName? (s : String) : Option PrimitiveKind :=
  [jwtPublicKeySign, jwtPublicKeyVerify, publicKeySign, publicKeyVerify].find? fun k => k.name = s

/-- The names of kinds, in order and each once. -/
def names (kinds : List PrimitiveKind) : List String :=
  (kinds.map name).eraseDups.mergeSort fun a b => a ≤ b

end PrimitiveKind

/-- What kind of key material a serialized key holds. -/
inductive MaterialType where
  | symmetric
  | asymmetricPrivate
  | asymmetricPublic
  | remote
deriving DecidableEq

/-- The name of a kind of key material. -/
def MaterialType.name : MaterialType → String
  | symmetric => "symmetric"
  | asymmetricPrivate => "asymmetric_private"
  | asymmetricPublic => "asymmetric_public"
  | remote => "remote"

/-- A serialized key with its key type. -/
structure KeyData where
  typeUrl : String
  value : Bytes
  material : MaterialType
deriving DecidableEq

/-- The number of a FIPS policy. -/
structure PolicyId where
  index : Nat
deriving DecidableEq

/-- The class of a manager.  The classes that applications bring are told apart by their names. -/
inductive ManagerClass where
  | jwtSigner
  | external (name : String)
deriving DecidableEq

/-- The name of a class. -/
def ManagerClass.name : ManagerClass → String
  | jwtSigner => "JwtRsaSsaPkcs1SignKeyManager"
  | external name => name

/-- A manager that an application brings. -/
structure ExternalManager where
  className : String
  keyType : String
  /-- What it can make; the first is its main kind. -/
  primitives : List PrimitiveKind
  fipsStatus : Compatibility
  /-- Reads a serialized key. -/
  parse : Bytes → Except KeyError Bytes
  /-- Checks a key. -/
  check : Bytes → Except KeyError Unit

/-- A manager instance. -/
inductive Manager where
  /-- The manager of JWT signing keys. -/
  | jwtSigner (serial : Nat) (policy : PolicyId)
  | external (serial : Nat) (manager : ExternalManager)

namespace Manager

/-- The number of the instance. -/
def serial : Manager → Nat
  | jwtSigner serial _ => serial
  | external serial _ => serial

/-- The class of the manager. -/
def implementingClass : Manager → ManagerClass
  | jwtSigner .. => .jwtSigner
  | external _ m => .external m.className

/-- The name of the manager's class. -/
def className (m : Manager) : String :=
  m.implementingClass.name

/-- The key type that the manager serves. -/
def keyType : Manager → String
  | jwtSigner .. => Jwt.privateKeyType
  | external _ m => m.keyType

/-- The key type of public keys, for a manager that gives them. -/
def publicKeyType? : Manager → Option String
  | jwtSigner .. => some Jwt.publicKeyType
  | external .. => none

/-- The highest key version that the manager accepts. -/
def version : Manager → Nat
  | jwtSigner .. => 0
  | external .. => 0

/-- What the manager can make. -/
def primitives : Manager → List PrimitiveKind
  | jwtSigner .. => [.jwtPublicKeySign]
  | external _ m => m.primitives

/-- The kind that the manager mainly makes. -/
def mainPrimitive? (m : Manager) : Option PrimitiveKind :=
  m.primitives.head?

/-- The names of what the manager can make, in order and each once. -/
def primitiveNames (m : Manager) : List String :=
  PrimitiveKind.names m.primitives

/-- The kind of key material that the manager serves. -/
def material : Manager → MaterialType
  | jwtSigner .. => .asymmetricPrivate
  | external .. => .asymmetricPrivate

/-- How the manager's algorithm conforms to FIPS. -/
def fipsStatus : Manager → Compatibility
  | jwtSigner .. => .requiresCertifiedModule
  | external _ m => m.fipsStatus

end Manager

end Keyring
