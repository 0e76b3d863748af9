/-
# Using key managers

What a key manager does with keys: it reads a serialized key, checks it and makes a primitive from
it.  The manager of JWT signing keys also makes new keys and gives their public halves; the managers
of applications do not serve these requests.

Making a signer binds the key type in the log, and counts and logs how the self-test ended.
-/
import Keyring.Jwt.KeyMaterial
import Keyring.Registry

namespace Keyring

/-- A key that a manager has read. -/
inductive Key where
  | jwt (key : Jwt.PrivateKey)
  | plain (key : Bytes)

/-- What a manager makes from a key. -/
inductive Primitive where
  | signer (signer : Jwt.Signer)
  | plain (key : Bytes)

namespace Jwt

/-- What is logged about a key whose self-test failed. -/
def selfTestNote (e : KeyError) : String :=
  let outcome :=
    match e.reason with
    | .componentsRejected _ => "components rejected"
    | reason => reason.message
  s!"key self-test failed for {privateKeyType}: {outcome}"

/-- The signer for a record, with no log fields bound for it. -/
def PrivateKey.makeSignerPlain (key : PrivateKey) (crypto : Rsa.CryptoModule) : Action Signer := do
  match key.signer crypto with
  | .error e =>
    if e.kind = .selfTestFailure then
      Action.count (.selfTest false)
      Action.note .warning .jwtSigner (selfTestNote e)
    throw (.key e)
  | .ok signer =>
    Action.count (.selfTest true)
    Action.count (.primitiveCreated privateKeyType)
    pure signer

/-- The signer for a record; the log tells the key type. -/
def PrivateKey.makeSigner (key : PrivateKey) (crypto : Rsa.CryptoModule) : Action Signer :=
  Action.withBound [("type_url", .text privateKeyType)] (key.makeSignerPlain crypto)

/-- A new key for a format. -/
def KeyFormat.makeKey (format : KeyFormat) (crypto : Rsa.CryptoModule) : Action PrivateKey := do
  let key ← Action.ofExcept (format.newKey crypto)
  Action.count (.keyGenerated format.modulusBits.toNat)
  pure key

end Jwt

namespace Manager

/-! ## Instances -/

/-- A new instance of a manager that an application brings. -/
def bring (m : ExternalManager) : Action Manager := do
  let s ← get
  set { s with managerCount := s.managerCount + 1 }
  pure (.external s.managerCount m)

/-- A new instance of the manager of JWT signing keys under a policy. -/
def newJwtSigner (policy : PolicyId) : Action Manager := do
  let s ← get
  set { s with managerCount := s.managerCount + 1 }
  pure (.jwtSigner s.managerCount policy)

/-! ## Keys -/

/-- Reads a serialized key. -/
def parseKey (m : Manager) (b : Bytes) : Action Key :=
  match m with
  | .jwtSigner .. => return .jwt (← Action.ofKey (Jwt.PrivateKey.parse b Jwt.privateKeyType))
  | .external _ e => return .plain (← Action.ofKey (e.parse b))

/-- Checks a key.  A record of another manager's kind is not this manager's to judge. -/
def checkKey (m : Manager) (key : Key) : Action Unit := do
  match m, key with
  | .jwtSigner _ policy, .jwt key => Action.ofKey (key.check ((← get).policy policy))
  | .external _ e, .plain key => Action.ofKey (e.check key)
  | .external .., .jwt _ => pure ()
  | .jwtSigner .., .plain _ => throw .unserved

/-- Makes a primitive from a key. -/
def createPrimitive (m : Manager) (crypto : Rsa.CryptoModule) (key : Key) : Action Primitive :=
  match m, key with
  | .jwtSigner .., .jwt key => return .signer (← key.makeSigner crypto)
  | .external .., .plain key => pure (.plain key)
  | _, _ => throw .unserved

/-- Reads and checks a serialized key and makes a primitive from it. -/
def primitive (m : Manager) (crypto : Rsa.CryptoModule) (b : Bytes) : Action Primitive := do
  let key ← m.parseKey b
  m.checkKey key
  m.createPrimitive crypto key

/-! ## Making keys -/

/-- Reads a serialized key format. -/
def parseFormat (m : Manager) (b : Bytes) : Action Jwt.KeyFormat :=
  match m with
  | .jwtSigner .. => Action.ofKey (Jwt.KeyFormat.parse b Jwt.privateKeyType)
  | .external .. => throw .unserved

/-- Checks a key format. -/
def checkFormat (m : Manager) (format : Jwt.KeyFormat) : Action Unit := do
  match m with
  | .jwtSigner _ policy => Action.ofKey (format.check ((← get).policy policy))
  | .external .. => throw .unserved

/-- Makes a key for a format. -/
def createKey (m : Manager) (crypto : Rsa.CryptoModule) (format : Jwt.KeyFormat) :
    Action Jwt.PrivateKey :=
  match m with
  | .jwtSigner .. => format.makeKey crypto
  | .external .. => throw .unserved

/-- The public half of a key. -/
def publicKey (m : Manager) (key : Key) : Action Jwt.PublicKey :=
  match m, key with
  | .jwtSigner .., .jwt key => pure key.pub
  | _, _ => throw .unserved

/-- Reads and checks a serialized key format and makes a key for it. -/
def newKeyData (m : Manager) (crypto : Rsa.CryptoModule) (b : Bytes) : Action KeyData := do
  let format ← m.parseFormat b
  m.checkFormat format
  let key ← m.createKey crypto format
  pure { typeUrl := m.keyType, value := key.encode, material := m.material }

/-- Reads and checks a serialized private key and gives its public half. -/
def publicKeyData (m : Manager) (b : Bytes) : Action KeyData := do
  match m.publicKeyType? with
  | none => throw .unserved
  | some typeUrl =>
    let key ← m.parseKey b
    m.checkKey key
    let pub ← m.publicKey key
    pure { typeUrl, value := pub.encode, material := .asymmetricPublic }

end Manager

end Keyring
