/-
# Settings that change while the process runs

A holder has the settings of the moment.  It takes overrides, or the settings that its host gives
now; what would relax a setting that only tightens is passed over with a warning.  If a call fails,
the holder keeps its settings.
-/
import Keyring.Action
import Keyring.Settings.Change

namespace Keyring

namespace Settings

/-- Loads the settings of the host, with a warning about a document that is passed over. -/
def loadFromHost : Action Settings := do
  let host := (← MonadState.get).host
  let loaded ← Action.ofExcept (load host)
  if loaded.passedOver then
    Action.note .warning .config
      s!"ignoring config at {configPath host}: top-level document is not a mapping"
  pure loaded.settings

/-- The settings after overrides, with a warning for each that is passed over. -/
def revise (s : Settings) (overrides : Fields) : Action Settings := do
  let c := s.change overrides
  c.refused.forM fun name => Action.note .warning .config s!"ignoring attempt to relax {name.text}"
  Action.ofExcept (ofFields c.fields)

/-- The settings after all that the host gives now. -/
def reload (s : Settings) : Action Settings := do
  let fresh ← loadFromHost
  s.revise fresh.toFields

end Settings

namespace Holder

/-- Makes a holder: with the given settings, or else with those of the host. -/
def create (initial? : Option Settings := none) : Action HolderId := do
  let settings ← initial?.elim Settings.loadFromHost pure
  let s ← MonadState.get
  MonadState.set { s with holders := s.holders.add settings }
  pure ⟨s.holders.next⟩

/-- The settings of the moment. -/
def get (id : HolderId) : Action Settings := do
  pure ((← MonadState.get).held id)

/-- Takes overrides. -/
def set (id : HolderId) (overrides : Fields) : Action Settings := do
  let settings ← ((← MonadState.get).held id).revise overrides
  modify fun s => s.setHeld id settings
  pure settings

/-- Takes what the host gives now. -/
def refresh (id : HolderId) : Action Settings := do
  let settings ← ((← MonadState.get).held id).reload
  modify fun s => s.setHeld id settings
  pure settings

end Holder

end Keyring
