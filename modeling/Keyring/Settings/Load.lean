/-
# Loading settings

Settings are loaded from three layers: the defaults, a YAML file, and environment variables, where a
later layer wins.  The file is read with the reader of the host, in UTF-8.  A file that does not
exist counts as empty; a document that is not a mapping is passed over, which the outcome tells.
The file's mapping is checked as a whole, also where a variable would win over it.
-/
import Keyring.Settings.Basic
import Keyring.Settings.Host

namespace Keyring.Settings

/-! ## The file -/

/-- What a settings file gives. -/
inductive FileContent where
  | fields (fields : Fields)
  /-- The document is not a mapping. -/
  | passedOver

/-- The fields of a mapping, under the texts of its keys: of keys with equal texts the last value
counts. -/
def fieldsOf (ms : Members) : Except Failure Fields := do
  let named ← ms.mapM fun (key, v) => return (← key.display, v)
  pure (Fields.update [] named)

/-- What the bytes of a settings file give. -/
def readContent (h : Host) (b : Bytes) : Except Failure FileContent :=
  match Bytes.text? b with
  | none => .error .encoding
  | some text => do
    match ← h.readYaml (Text.unifyLineEnds text) with
    | .dict ms => return .fields (← fieldsOf ms)
    | _ => pure .passedOver

/-- The path of the settings file; empty if there is none. -/
def configPath (h : Host) : String :=
  Text.strip ((h.valueOf? "KEYCORE_CONFIG_PATH").getD "")

/-- What the settings file gives. -/
def readFile (h : Host) : Except Failure FileContent :=
  let path := configPath h
  if path.isEmpty then .ok (.fields [])
  else
    match h.file? path with
    | none => .ok (.fields [])
    | some .directory => .error .directory
    | some .locked => .error .denied
    | some (.content b) => readContent h b

/-! ## The layers -/

/-- Settings that were loaded, and whether a document was passed over. -/
structure Loaded where
  settings : Settings
  passedOver : Bool
deriving DecidableEq

/-- The defaults with the fields of the file, if there are any. -/
def withFile (fields : Fields) : Except Failure Settings :=
  if fields.isEmpty then .ok {} else ofFields (({} : Settings).toFields.update fields)

/-- The settings with the environment variables that are set. -/
def withVariables (s : Settings) (h : Host) : Settings :=
  let level := Text.strip ((h.valueOf? "KEYCORE_LOG_LEVEL").getD "")
  { s with
    fipsOnly := h.truth "KEYCORE_FIPS_ONLY" s.fipsOnly
    fipsModuleAvailable := h.truth "KEYCORE_FIPS_MODULE_AVAILABLE" s.fipsModuleAvailable
    newKeyAllowed := h.truth "KEYCORE_NEW_KEY_ALLOWED" s.newKeyAllowed
    registerJwtRsa := h.truth "KEYCORE_REGISTER_JWT_RSA" s.registerJwtRsa
    logLevel := if level.isEmpty then s.logLevel else Text.upper level
    logJson := h.truth "KEYCORE_LOG_JSON" s.logJson
    metricsEnabled := h.truth "KEYCORE_METRICS_ENABLED" s.metricsEnabled }

/-- Loads the settings of a host. -/
def load (h : Host) : Except Failure Loaded := do
  match ← readFile h with
  | .passedOver => pure ⟨{ withVariables {} h with configOrigin := "defaults" }, true⟩
  | .fields fields =>
    let s ← withFile fields
    let origin := if fields.isEmpty then "defaults" else "yaml"
    pure ⟨{ withVariables s h with configOrigin := origin }, false⟩

end Keyring.Settings
