/-
# Settings

Six truth values and two texts.  A value offered for a truth value may be one, a number equal to
zero or one, or one of the usual words in letters of either case; a value offered for a text must be
one.  Bytes count as the text that they spell in UTF-8, and an object as the number that it gives,
or as its bytes where a text is wanted.  `ofFields` makes settings from values under
names and reports every value that does not fit.

`hash` identifies settings: it is the SHA-256 hash of their canonical JSON, in which the eight
settings stand under their names.
-/
import Keyring.Error
import Keyring.Hash.Sha256
import Keyring.Json.Encode

namespace Keyring

/-- The settings of a process. -/
structure Settings where
  /-- Use is restricted to what conforms to FIPS. -/
  fipsOnly : Bool := false
  /-- A certified module computes. -/
  fipsModuleAvailable : Bool := false
  /-- New keys may be made. -/
  newKeyAllowed : Bool := true
  /-- The manager of JWT signing keys is registered at the start. -/
  registerJwtRsa : Bool := true
  logLevel : String := "INFO"
  /-- Log lines are JSON. -/
  logJson : Bool := true
  metricsEnabled : Bool := true
  /-- Where the settings came from. -/
  configOrigin : String := "defaults"
deriving DecidableEq

namespace Settings

/-! ## Names -/

/-- One of the settings. -/
inductive Name where
  | fipsOnly
  | fipsModuleAvailable
  | newKeyAllowed
  | registerJwtRsa
  | logLevel
  | logJson
  | metricsEnabled
  | configOrigin
deriving DecidableEq

namespace Name

/-- The settings in order. -/
def all : List Name :=
  [fipsOnly, fipsModuleAvailable, newKeyAllowed, registerJwtRsa, logLevel, logJson, metricsEnabled,
    configOrigin]

/-- The text under which a setting is given. -/
def text : Name → String
  | fipsOnly => "fips_only"
  | fipsModuleAvailable => "fips_module_available"
  | newKeyAllowed => "new_key_allowed"
  | registerJwtRsa => "register_jwt_rsa"
  | logLevel => "log_level"
  | logJson => "log_json"
  | metricsEnabled => "metrics_enabled"
  | configOrigin => "config_origin"

/-- The setting that is given under a text. -/
def ofText? (s : String) : Option Name :=
  all.find? fun n => n.text = s

end Name

/-- The value of a setting. -/
def get (s : Settings) : Name → Value
  | .fipsOnly => .bool s.fipsOnly
  | .fipsModuleAvailable => .bool s.fipsModuleAvailable
  | .newKeyAllowed => .bool s.newKeyAllowed
  | .registerJwtRsa => .bool s.registerJwtRsa
  | .logLevel => .text s.logLevel
  | .logJson => .bool s.logJson
  | .metricsEnabled => .bool s.metricsEnabled
  | .configOrigin => .text s.configOrigin

/-- The settings as values under their names, in order. -/
def toFields (s : Settings) : Fields :=
  Name.all.map fun n => (n.text, s.get n)

/-! ## Reading values -/

/-- The words for truth. -/
def trueWords : List String := ["1", "on", "t", "true", "y", "yes"]

/-- The words for falsehood. -/
def falseWords : List String := ["0", "off", "f", "false", "n", "no"]

/-- The truth value of a word. -/
def truthOfWord (s : String) : Except SettingProblem Bool :=
  let word := s.map Char.toLower
  if trueWords.contains word then .ok true
  else if falseWords.contains word then .ok false
  else .error .unreadableTruth

/-- The truth value that a number with a point stands for. -/
def truthOfReal (x : Number.Double) : Except SettingProblem Bool :=
  if x.quantity.eq (.ofInt 0) then .ok false
  else if x.quantity.eq (.ofInt 1) then .ok true
  else .error .noTruth

/-- The truth value that a value stands for.  A whole number of 64 bits is at least of a kind that
could stand for one. -/
def readTruth : Value → Except SettingProblem Bool
  | .bool b => .ok b
  | .int i =>
    if i = 0 then .ok false
    else if i = 1 then .ok true
    else if -0x8000000000000000 ≤ i ∧ i < 0x8000000000000000 then .error .unreadableTruth
    else .error .noTruth
  | .float x => truthOfReal x
  | .text s => truthOfWord s
  | .bytes b => (Bytes.text? b).elim (.error .unreadableTruth) truthOfWord
  | .object o => o.real?.elim (.error .noTruth) truthOfReal
  | _ => .error .noTruth

/-- The text that bytes spell. -/
def textOfBytes (b : Bytes) : Except SettingProblem String :=
  (Bytes.text? b).elim (.error .unreadableText) .ok

/-- The text that a value is. -/
def readText : Value → Except SettingProblem String
  | .text s => .ok s
  | .bytes b => textOfBytes b
  | .object o => o.bytes?.elim (.error .noText) textOfBytes
  | _ => .error .noText

/-- The settings with a value offered for one of them. -/
def assign (s : Settings) (name : Name) (v : Value) : Except SettingProblem Settings :=
  match name with
  | .fipsOnly => (readTruth v).map fun b => { s with fipsOnly := b }
  | .fipsModuleAvailable => (readTruth v).map fun b => { s with fipsModuleAvailable := b }
  | .newKeyAllowed => (readTruth v).map fun b => { s with newKeyAllowed := b }
  | .registerJwtRsa => (readTruth v).map fun b => { s with registerJwtRsa := b }
  | .logLevel => (readText v).map fun t => { s with logLevel := t }
  | .logJson => (readTruth v).map fun b => { s with logJson := b }
  | .metricsEnabled => (readTruth v).map fun b => { s with metricsEnabled := b }
  | .configOrigin => (readText v).map fun t => { s with configOrigin := t }

/-- What is wrong with a value under a name, if anything is. -/
def problem? (name : String) (v : Value) : Option SettingProblem :=
  match Name.ofText? name with
  | none => some .noSetting
  | some n =>
    match ({} : Settings).assign n v with
    | .ok _ => none
    | .error p => some p

/-- The settings with the values under names offered one after the other; what does not fit is
passed over. -/
def assignAll (s : Settings) (fields : Fields) : Settings :=
  fields.foldl (fun acc (name, v) =>
    match Name.ofText? name with
    | none => acc
    | some n => (acc.assign n v).toOption.getD acc) s

/-- The settings with values under names in place of the defaults, or all the problems, ordered by
the names. -/
def ofFields (fields : Fields) : Except Failure Settings :=
  let problems := fields.filterMap fun (name, v) => (problem? name v).map ((name, ·))
  if problems.isEmpty then .ok (({} : Settings).assignAll fields)
  else .error (.settings (problems.mergeSort fun a b => a.1 ≤ b.1))

/-! ## The hash -/

/-- The settings as one value. -/
def toValue (s : Settings) : Value :=
  .dict s.toFields.toMembers

/-- The text that is hashed; all keys are text, so JSON can hold the settings. -/
def hashText (s : Settings) : String :=
  (Json.canonicalText? s.toValue).getD ""

/-- The hash that identifies the settings, in hexadecimal digits. -/
def hash (s : Settings) : String :=
  (Hash.Sha256.digest (Bytes.ofText s.hashText)).hex

end Settings

end Keyring
