/-
# Templates and signing keys

The operations on the tables of templates of a process, and on the signing keys that are made from
templates.  Putting templates is logged; putting that is refused leaves the table as it is.

The way from a template to a signing key leads through a registry: it says which manager makes the
key, and whether new keys may be made at all.  `register` sets a registry and a table of templates
up for this.

A custom key id goes with templates of the custom strategy, and only with them.
-/
import Keyring.Manager.Operations

/-! ## Tables of templates -/

namespace Keyring.Templates

/-- Makes a table: empty, or with the templates of another one. -/
def create (source? : Option TemplatesId := none) : Action TemplatesId := do
  let s ← get
  let table := (source?.map s.templates).getD {}
  set { s with templateTables := s.templateTables.add table }
  pure ⟨s.templateTables.next⟩

/-- Puts templates under their names, all or none. -/
def putAll (id : TemplatesId) (values : List (String × Jwt.Template)) : Action Unit := do
  let s ← get
  let table ← Action.ofKey ((s.templates id).putAll values)
  set (s.setTemplates id table)
  Action.note .debug .parameters s!"merged {values.length} named parameter sets"

/-- The template under a name. -/
def get (id : TemplatesId) (name : String) : Action Jwt.Template := do
  Action.ofKey (((← MonadState.get).templates id).get name)

end Keyring.Templates

/-! ## Signing keys -/

namespace Keyring.SigningKeys

/-- Checks that a custom key id is given where the strategy needs one, and nowhere else. -/
def checkCustomKid (strategy : Jwt.KidStrategy) (kid? : Option Jwt.OfferedKid) :
    Except KeyError Unit :=
  match strategy, kid? with
  | .custom, none => refuse .customKidMissing Jwt.privateKeyType
  | .custom, some kid =>
    if kid.isEmpty then refuse .customKidMissing Jwt.privateKeyType else pure ()
  | _, none => pure ()
  | strategy, some _ => refuse (.customKidUnwanted strategy.label) Jwt.privateKeyType

/-- Makes a private key for a template with the registered manager.  The key does not tell its
strategy: for one with key ids the caller gives `Template.kidFor` when signing. -/
def create (crypto : Rsa.CryptoModule) (registry : RegistryId) (template : Jwt.Template)
    (customKid : Option Jwt.OfferedKid := none) : Action Jwt.PrivateKey := do
  let manager ← Registry.lookup registry Jwt.privateKeyType .jwtPublicKeySign
  if !(← Registry.isNewKeyAllowed registry Jwt.privateKeyType) then
    Action.refuse (.newKeysDisallowed Jwt.privateKeyType) Jwt.privateKeyType
  Action.ofKey (checkCustomKid template.kidStrategy customKid)
  let format ← Action.ofExcept (template.toKeyFormat manager.version)
  manager.checkFormat format
  let key ← manager.createKey crypto format
  Action.ofExcept (key.label customKid)

/-- Registers a new manager of JWT signing keys under the registry's policy, and puts the templates
that come with this library. -/
def register (registry : RegistryId) (templates : TemplatesId) (newKeyAllowed : Bool := true) :
    Action Manager := do
  let manager ← Manager.newJwtSigner ((← get).registry registry).policy
  Registry.register registry { manager, declared := manager.fipsStatus, newKeyAllowed }
  Templates.putAll templates Jwt.Template.named
  pure manager

end Keyring.SigningKeys
