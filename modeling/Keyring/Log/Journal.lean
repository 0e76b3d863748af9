/-
# The journal

The journal is what logging works on: the loggers, the fields that are bound at the moment, and what
was written so far.

* `Journal.write` lets the handlers write a record.
* `Journal.log` logs what a caller says, through any logger.
* `Journal.note` logs what a part of this library says, and keeps it with the bound fields.
* `Journal.bind` and `Journal.rebind` change the bound fields.

A line that cannot be written is left out; logging itself never fails because of it.
-/
import Keyring.Log.Tree

namespace Keyring.Log

/-- A part of this library that logs. -/
inductive Source where
  | registry
  | config
  | context
  | parameters
  | jwtSigner
deriving DecidableEq

/-- The logger of a part of this library. -/
def Source.logger : Source → String
  | registry => "keycore.registry"
  | config => "keycore.config"
  | context => "keycore.context"
  | parameters => "keycore.parameters"
  | jwtSigner => "keycore.jwt_rsa_sign"

/-- What a part of this library said, and the fields that were bound then. -/
structure Note where
  severity : Severity
  source : Source
  message : String
  bound : Fields

/-- The state of logging. -/
structure Journal where
  tree : Tree := initialTree
  format : Format := {}
  /-- The time that lines show. -/
  time : String := ""
  /-- The fields that are bound at the moment. -/
  bound : Fields := []
  /-- What this library said, in order. -/
  notes : List Note := []
  /-- The lines that handlers wrote, in order. -/
  lines : List String := []

/-- What somebody logs: a severity level, a message with arguments, perhaps an exception, and
further fields. -/
structure Statement where
  level : Int
  message : Value
  args : List Value := []
  exception? : Option Exception := none
  extras : Fields := []

/-- The record of a statement under the name of a logger. -/
def Statement.record (s : Statement) (logger : String) : Record where
  logger := .text logger
  levelName := .text (levelName s.level)
  message := s.message
  args := packArguments s.args
  exception? := s.exception?
  extras := s.extras

/-- The name that records of a logger show. -/
def shownName (logger : String) : String :=
  if loggerName logger = "" then "root" else logger

/-- Names that a further field may not have. -/
def reservedNames : List String :=
  Record.ownNames ++ ["message", "asctime"]

namespace Journal

/-- The lines that a handler writes for a record. -/
def linesOf (j : Journal) (r : Record) (h : Handler) : List String :=
  let written :=
    if h.json then jsonLine j.format h.includeStack j.time j.bound r else textLine j.time r
  match written with
  | .ok text => text.splitOn "\n"
  | .error _ => []

/-- Lets the handlers write a record of a level that came to a logger. -/
def write (j : Journal) (logger : String) (level : Int) (r : Record) : Journal :=
  { j with lines := j.lines ++ (j.tree.handlersFor logger level).flatMap (j.linesOf r) }

/-- Logs a statement through a logger.  What the logger lets through may not have further fields
under reserved names. -/
def log (j : Journal) (logger : String) (s : Statement) : Except Failure Journal :=
  if !j.tree.enabled logger s.level then .ok j
  else if s.extras.any fun (name, _) => reservedNames.contains name then .error .reserved
  else .ok (j.write logger s.level (s.record (shownName logger)))

/-- Logs what a part of this library says, if its logger lets it through. -/
def note (j : Journal) (severity : Severity) (source : Source) (message : String) : Journal :=
  if j.tree.enabled source.logger severity.level then
    let s : Statement := { level := severity.level, message := .text message }
    let j := j.write source.logger severity.level (s.record source.logger)
    { j with notes := j.notes ++ [⟨severity, source, message, j.bound⟩] }
  else j

/-- Binds fields in addition to those that are bound; a field without a value is passed over. -/
def bind (j : Journal) (fields : Fields) : Journal :=
  { j with bound := j.bound.update (fields.filter fun (_, v) => !v.isNull) }

/-- Binds these fields and no others. -/
def rebind (j : Journal) (fields : Fields) : Journal :=
  { j with bound := fields }

/-- Gives a logger one handler that writes from a level on. -/
def configure (j : Journal) (level : Option String) (json : Bool := true)
    (includeStack : Option Bool := none) (logger : Option String := none) :
    Except Failure Journal := do
  let level ← requestedLevel level
  let includeStack := includeStack.getD j.format.includeStack
  pure { j with tree := j.tree.configure logger level json includeStack }

/-- Taking a note binds nothing. -/
@[simp] theorem bound_note (j : Journal) (severity : Severity) (source : Source)
    (message : String) : (j.note severity source message).bound = j.bound := by
  unfold note
  split <;> rfl

end Journal

end Keyring.Log
