/-
# Contexts

A context keeps settings, a FIPS policy, a registry and templates together.

* `Context.create` makes one, and `Context.bootstrap` fills its registry: first comes the FIPS
  restriction, which needs an empty registry, then the manager of JWT signing keys.
* `Context.update` and `Context.refresh` change the settings and carry what was tightened into the
  registry.
-/
import Keyring.Settings.Holder
import Keyring.SigningKeys

namespace Keyring.Context

/-! ## Making contexts -/

/-- Fills the registry of a context as its settings ask. -/
def bootstrap (id : ContextId) : Action Unit := do
  let c := (← get).context id
  if c.settings.fipsOnly then Registry.restrict c.registry
  if c.settings.registerJwtRsa then
    discard <| SigningKeys.register c.registry c.templates c.settings.newKeyAllowed
  let s ← get
  let restricted := FipsPolicy.truth (s.policy c.policy).restricted
  let keyTypes := (s.directory c.registry).keyTypes.length
  let templates := (s.templates c.templates).size
  Action.note .info .context
    (s!"keycore context ready (fips_only={restricted}, key_types={keyTypes}, "
      ++ s!"templates={templates})")

/-- Makes a context and fills its registry, unless that is left to the caller. -/
def create (settings : Settings := {}) (fill : Bool := true) : Action ContextId := do
  let policy ← FipsPolicy.create { moduleAvailable := settings.fipsModuleAvailable }
  let registry ← Registry.createUnder policy
  let templates ← Templates.create
  let s ← get
  set { s with contexts := s.contexts.add { settings, policy, registry, templates } }
  let id : ContextId := ⟨s.contexts.next⟩
  if fill then bootstrap id
  pure id

/-! ## Changing settings -/

/-- Disallows new keys of a key type for which they are allowed. -/
def disallowNewKeys (registry : RegistryId) (keyType : String) : Action Unit := do
  if ← Registry.isNewKeyAllowed registry keyType then
    let manager ← Registry.manager registry keyType
    Registry.register registry { manager, declared := manager.fipsStatus, newKeyAllowed := false }
    Action.note .info .context s!"new keys disabled for {keyType}"

/-- Carries settings into the registry of a context. -/
def apply (id : ContextId) (settings : Settings) : Action Unit := do
  let s ← get
  let c := s.context id
  if settings.fipsOnly && !(s.policy c.policy).restricted then Registry.restrict c.registry
  if !settings.newKeyAllowed then
    let keyTypes := ((← get).directory c.registry).keyTypes.mergeSort fun a b => a ≤ b
    keyTypes.forM (disallowNewKeys c.registry)

/-- Gives a context settings that a change of its own makes. -/
def changeSettings (id : ContextId) (change : Settings → Action Settings) : Action Settings := do
  let settings ← change ((← get).context id).settings
  modify fun s => s.setContextSettings id settings
  apply id settings
  pure settings

/-- Takes overrides of the settings. -/
def update (id : ContextId) (overrides : Fields) : Action Settings :=
  changeSettings id fun s => s.revise overrides

/-- Takes the settings that the host gives now. -/
def refresh (id : ContextId) : Action Settings :=
  changeSettings id Settings.reload

end Keyring.Context
