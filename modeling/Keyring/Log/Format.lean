/-
# Log lines

A record becomes one line of JSON with a fixed envelope, or one line of plain text.

Values under the names of private key parts are masked, bytes are replaced by their number, and long
texts are cut.  This concerns the bound fields and the record's further fields at their top level.

The fields of the envelope come first; bound fields are merged into the same object, an exception
follows, and the record's further fields stand under `meta`.
-/
import Keyring.Json.Encode
import Keyring.Log.Record
import Keyring.Text.Numeral

namespace Keyring.Log

/-! ## Settings of the format -/

/-- How lines are written. -/
structure Format where
  schema : String := "keycore.log.v1"
  service : String := "keycore"
  /-- The most characters of a text. -/
  maxField : Nat := 4096
  /-- Exceptions are shown unless the caller says otherwise. -/
  includeStack : Bool := true
deriving DecidableEq

/-- The least value of the limit on texts. -/
def leastMaxField : Nat := 256

/-- The limit on texts that a setting asks for. -/
def maxFieldOf (setting : String) : Nat :=
  match Text.int? setting with
  | some n => max leastMaxField n.toNat
  | none => 4096

/-- The format that environment variables ask for. -/
def Format.ofVariables (valueOf? : String → Option String) : Format where
  schema := (valueOf? "KEYCORE_LOG_SCHEMA").getD "keycore.log.v1"
  service := (valueOf? "KEYCORE_SERVICE").getD "keycore"
  maxField := maxFieldOf ((valueOf? "KEYCORE_LOG_MAX_FIELD").getD "4096")
  includeStack := (valueOf? "KEYCORE_LOG_INCLUDE_STACK").getD "1" = "1"

/-! ## Scrubbing -/

/-- The names of private key parts. -/
def secretNames : List String :=
  ["d", "p", "q", "dp", "dq", "crt", "private_key", "key_value"]

/-- Whether values under this name are masked; small and capital letters are the same. -/
def isSecret (name : String) : Bool :=
  secretNames.contains (Text.lower name)

/-- A text of at most so many characters; a longer one is cut and marked. -/
def truncate (limit : Nat) (s : String) : String :=
  if limit < s.length then String.ofList (s.toList.take limit) ++ "...<truncated>" else s

/-- A value under a name as it may be shown. -/
def scrubValue (limit : Nat) (name : String) (v : Value) : Value :=
  if isSecret name then .text "***"
  else
    match v with
    | .bytes b => .text s!"<{b.length} bytes>"
    | .text s => .text (truncate limit s)
    | v => v

/-- Fields as they may be shown. -/
def scrub (limit : Nat) (fields : Fields) : Fields :=
  fields.map fun (name, v) => (name, scrubValue limit name v)

/-- A dictionary as it may be shown; a key counts by its text. -/
def scrubMembers (limit : Nat) (ms : Members) : Except Failure Members :=
  ms.mapM fun (key, v) => return (key, scrubValue limit (← key.display) v)

/-! ## Lines -/

/-- The fields of the envelope. -/
def envelope (f : Format) (time : String) (r : Record) (text : String) : Fields :=
  [("schema", .text f.schema), ("service", .text f.service), ("ts", .text time),
    ("lvl", r.levelName), ("logger", r.logger), ("msg", .text (truncate f.maxField text))]

/-- The fields that show an exception, each cut without a mark. -/
def exceptionFields (f : Format) (e : Exception) : Fields :=
  [("exc_type", .text e.typeName),
    ("exc_message", .text (String.ofList (e.message.toList.take f.maxField))),
    ("stack", .text (String.ofList (e.trace.toList.take f.maxField)))]

/-- The object that a line of JSON holds. -/
def event (f : Format) (includeStack : Bool) (time : String) (bound : Fields) (r : Record)
    (text : String) : Fields :=
  let event := (envelope f time r text).update (scrub f.maxField bound)
  let event :=
    match r.exception? with
    | some e => if includeStack then event.update (exceptionFields f e) else event
    | none => event
  if r.shownExtras.isEmpty then event
  else event.insert "meta" (.dict (scrub f.maxField r.shownExtras).toMembers)

/-- A record as a line of JSON. -/
def jsonLine (f : Format) (includeStack : Bool) (time : String) (bound : Fields) (r : Record) :
    Except Failure String := do
  let text ← r.text
  Json.logText (.dict (event f includeStack time bound r text).toMembers)

/-- A record as plain text; an exception follows on a line of its own. -/
def textLine (time : String) (r : Record) : Except Failure String := do
  let text ← r.text
  let level ← r.levelName.display
  let logger ← r.logger.display
  let line := s!"{time} {level} {logger}: {text}"
  match r.exception? with
  | none => pure line
  | some e =>
    let trace := String.ofList e.trace.toList.dropLast
    pure (if line.endsWith "\n" then line ++ trace else line ++ "\n" ++ trace)

end Keyring.Log
