/-
# Registries

The operations on registries count what happened and log what was refused or newly registered.

A registration that is refused changes nothing in the registry.  Restricting a registry restricts
its policy, for every registry and every manager that shares it; this is possible only while the
registry is empty.  A copy has the same managers under a policy of its own.
-/
import Keyring.Action

namespace Keyring

/-! ## What a registration reports -/

namespace Directory

/-- The outcome that is counted for a refusal. -/
def Refusal.outcome : Refusal → RegistrationOutcome
  | fips => .fips
  | otherClass _ => .conflict
  | newKeysDisallowed => .policy

/-- What is logged about a refusal. -/
def Refusal.note (r : Request) : Refusal → String
  | fips =>
    s!"refused registration of {r.manager.keyType}: "
      ++ s!"FIPS compatibility {r.declared.name} insufficient"
  | otherClass _ =>
    s!"attempted overwrite of a registered key manager for key type {r.manager.keyType}"
  | newKeysDisallowed => s!"refused re-enabling new keys for key type {r.manager.keyType}"

/-- The reason that the caller is given. -/
def Refusal.reason (r : Request) : Refusal → Reason
  | fips => .fipsInsufficient
  | otherClass existing =>
    .otherClassRegistered r.manager.keyType existing.name r.manager.className
  | newKeysDisallowed => .newKeysAlreadyDisallowed r.manager.keyType

/-- The outcome that is counted for an acceptance. -/
def Acceptance.outcome : Acceptance → RegistrationOutcome
  | inserted => .inserted
  | refreshed => .refreshed

/-- What is logged about a new key type. -/
def Request.note (r : Request) : String :=
  s!"registered key manager {r.manager.className} for {r.manager.keyType} "
    ++ s!"(new_key_allowed={FipsPolicy.truth r.newKeyAllowed})"

end Directory

/-! ## Policies -/

/-- Makes a policy. -/
def FipsPolicy.create (policy : FipsPolicy := {}) : Action PolicyId := do
  let s ← get
  set { s with policies := s.policies.add policy }
  pure ⟨s.policies.next⟩

namespace Registry

/-! ## Making registries -/

/-- Makes an empty registry under a policy. -/
def createUnder (policy : PolicyId) (directory : Directory := {}) : Action RegistryId := do
  let s ← get
  set { s with registries := s.registries.add { policy, directory } }
  pure ⟨s.registries.next⟩

/-- Makes an empty registry under a new policy. -/
def create (policy : FipsPolicy := {}) : Action RegistryId := do
  createUnder (← policy.create)

/-- Makes a registry with the managers of another one, under a new policy: the given one, or else
one like the other's. -/
def copy (source : RegistryId) (policy? : Option FipsPolicy := none) : Action RegistryId := do
  let s ← get
  let policy ← (policy?.getD (s.policyOf source)).create
  createUnder policy (s.directory source)

/-! ## Changing registries -/

/-- Registers a manager, with no log fields bound for it. -/
def registerPlain (id : RegistryId) (r : Directory.Request) : Action Unit := do
  let s ← get
  match Directory.register (s.policyOf id) (s.directory id) r with
  | .error refusal =>
    Action.count (.registration refusal.outcome)
    Action.note .warning .registry (refusal.note r)
    Action.refuse (refusal.reason r) r.manager.keyType
  | .ok (acceptance, directory) =>
    set (s.setDirectory id directory)
    Action.count (.registration acceptance.outcome)
    if acceptance = .inserted then Action.note .info .registry r.note

/-- Registers a manager; the log tells its key type. -/
def register (id : RegistryId) (r : Directory.Request) : Action Unit :=
  Action.withBound [("type_url", .text r.manager.keyType)] (registerPlain id r)

/-- Puts the restriction on the policy of an empty registry. -/
def restrict (id : RegistryId) : Action Unit := do
  let s ← get
  if (s.policyOf id).restricted then pure ()
  else
    match Directory.restrict (s.policyOf id) (s.directory id) with
    | .error () => Action.refuse .registryPopulated
    | .ok policy =>
      set (s.setPolicy (s.registry id).policy policy)
      Action.note .info .registry "key manager registry restricted to FIPS"

/-- Drops all entries; the policy stays as it is. -/
def reset (id : RegistryId) : Action Unit :=
  modify fun s => s.setDirectory id {}

/-! ## Looking up -/

/-- The entry of a key type. -/
def entry (id : RegistryId) (keyType : String) : Action DirectoryEntry := do
  match (← get).directory id |>.find? keyType with
  | some entry => pure entry
  | none =>
    Action.count (.lookup .unknown)
    Action.refuse (.keyTypeUnknown keyType) keyType

/-- The manager of a key type, if it makes primitives of a kind. -/
def lookup (id : RegistryId) (keyType : String) (kind : PrimitiveKind) : Action Manager := do
  let entry ← entry id keyType
  if entry.supports kind then
    Action.count (.lookup .found)
    pure entry.manager
  else
    Action.count (.lookup .unsupported)
    Action.refuse (.primitiveUnsupported kind.name entry.implementingClass.name
      (PrimitiveKind.names entry.primitives)) keyType

/-- The manager of a key type, whatever it makes. -/
def manager (id : RegistryId) (keyType : String) : Action Manager := do
  pure (← entry id keyType).manager

/-- Whether new keys may be made of a key type. -/
def isNewKeyAllowed (id : RegistryId) (keyType : String) : Action Bool := do
  pure (← entry id keyType).newKeyAllowed

/-- Whether a key type is registered. -/
def isRegistered (id : RegistryId) (keyType : String) : Action Bool := do
  pure ((← get).directory id |>.find? keyType).isSome

end Registry

end Keyring
