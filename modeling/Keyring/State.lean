/-
# The state of a process

Registries, tables of templates, FIPS policies, settings holders and contexts live as long as the
process, and some of them are shared: a registry and the managers made for it see one policy.  So
each is a row of a table, and whoever shares it knows its number.

Beside these rows the state has the counters, the journal, the host and the default context.
-/
import Keyring.Directory
import Keyring.Jwt.TemplateTable
import Keyring.Log.Journal
import Keyring.Metrics
import Keyring.Settings.Basic
import Keyring.Settings.Host
import Keyring.Table

namespace Keyring

/-! ## Numbers of rows -/

/-- The number of a registry. -/
structure RegistryId where
  index : Nat
deriving DecidableEq

/-- The number of a table of templates. -/
structure TemplatesId where
  index : Nat
deriving DecidableEq

/-- The number of a settings holder. -/
structure HolderId where
  index : Nat
deriving DecidableEq

/-- The number of a context. -/
structure ContextId where
  index : Nat
deriving DecidableEq

/-! ## Rows -/

/-- A directory of key managers under a FIPS policy. -/
structure Registry where
  policy : PolicyId
  directory : Directory := {}

/-- Settings together with the policy, the registry and the templates that follow them. -/
structure Context where
  settings : Settings
  policy : PolicyId
  registry : RegistryId
  templates : TemplatesId

instance : Inhabited FipsPolicy := ⟨{}⟩

instance : Inhabited Registry := ⟨⟨⟨0⟩, {}⟩⟩

instance : Inhabited Jwt.TemplateTable := ⟨{}⟩

instance : Inhabited Settings := ⟨{}⟩

instance : Inhabited Context := ⟨⟨{}, ⟨0⟩, ⟨0⟩, ⟨0⟩⟩⟩

/-! ## The state -/

/-- The state of a process. -/
structure State where
  policies : Table FipsPolicy := {}
  registries : Table Registry := {}
  templateTables : Table Jwt.TemplateTable := {}
  holders : Table Settings := {}
  contexts : Table Context := {}
  defaultContext? : Option ContextId := none
  /-- How many manager instances were made. -/
  managerCount : Nat := 0
  host : Host := {}
  metrics : Metrics := {}
  journal : Log.Journal := {}

namespace State

/-- The policy with a number. -/
def policy (s : State) (id : PolicyId) : FipsPolicy :=
  s.policies.get id.index

/-- Replaces a policy. -/
def setPolicy (s : State) (id : PolicyId) (policy : FipsPolicy) : State :=
  { s with policies := s.policies.set id.index policy }

/-- The registry with a number. -/
def registry (s : State) (id : RegistryId) : Registry :=
  s.registries.get id.index

/-- The policy that a registry is under. -/
def policyOf (s : State) (id : RegistryId) : FipsPolicy :=
  s.policy (s.registry id).policy

/-- The directory of a registry. -/
def directory (s : State) (id : RegistryId) : Directory :=
  (s.registry id).directory

/-- Replaces the directory of a registry. -/
def setDirectory (s : State) (id : RegistryId) (directory : Directory) : State :=
  { s with registries := s.registries.set id.index { s.registry id with directory } }

/-- The table of templates with a number. -/
def templates (s : State) (id : TemplatesId) : Jwt.TemplateTable :=
  s.templateTables.get id.index

/-- Replaces a table of templates. -/
def setTemplates (s : State) (id : TemplatesId) (table : Jwt.TemplateTable) : State :=
  { s with templateTables := s.templateTables.set id.index table }

/-- The settings in a holder. -/
def held (s : State) (id : HolderId) : Settings :=
  s.holders.get id.index

/-- Replaces the settings in a holder. -/
def setHeld (s : State) (id : HolderId) (settings : Settings) : State :=
  { s with holders := s.holders.set id.index settings }

/-- The context with a number. -/
def context (s : State) (id : ContextId) : Context :=
  s.contexts.get id.index

/-- Replaces the settings of a context. -/
def setContextSettings (s : State) (id : ContextId) (settings : Settings) : State :=
  { s with contexts := s.contexts.set id.index { s.context id with settings } }

/-- Counts an event. -/
def count (s : State) (e : Event) : State :=
  { s with metrics := s.metrics.record e }

end State

end Keyring
