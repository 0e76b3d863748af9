/-
# Log records

A record says who logs, how severe it is and what happened, perhaps with an exception, and carries
further fields.  Its message is written at the end.

Left out is what a record keeps of the place in the code and of the thread that it comes from, which
no line shows, and the frames of a stack: an exception is known by its type and its message.
-/
import Keyring.Log.Percent

namespace Keyring.Log

/-! ## Levels -/

/-- The severities that this library logs with. -/
inductive Severity where
  | debug
  | info
  | warning
deriving DecidableEq

/-- The number of a severity. -/
def Severity.level : Severity → Int
  | debug => 10
  | info => 20
  | warning => 30

/-- The levels that have a name; of two names for a level the first is the one shown. -/
def namedLevels : List (String × Int) :=
  [("CRITICAL", 50), ("FATAL", 50), ("ERROR", 40), ("WARNING", 30), ("WARN", 30), ("INFO", 20),
    ("DEBUG", 10), ("NOTSET", 0)]

/-- The name of a level. -/
def levelName (level : Int) : String :=
  ((namedLevels.find? fun (_, l) => l = level).map (·.1)).getD s!"Level {level}"

/-! ## Messages -/

/-- The message as text; if there is any argument, the arguments take their places in it. -/
def formatMessage (message : Value) (args : Value) : Except Failure String := do
  let text ← message.display
  if args.isTrue then return String.ofList (← fill text.toList args) else pure text

/-- The arguments as a record keeps them. -/
def packArguments (args : List Value) : Value :=
  match args with
  | [.dict ms] => if ms.isEmpty then .tuple args else .dict ms
  | _ => .tuple args

/-! ## Records -/

/-- An exception that a record carries. -/
structure Exception where
  /-- The name of its type. -/
  typeName : String
  /-- The name of its type with the package it belongs to. -/
  qualifiedName : String
  message : String
deriving DecidableEq

/-- The exception that stands for an error of this library. -/
def Exception.ofKind (kind : ErrorKind) (message : String) : Exception where
  typeName := kind.name
  qualifiedName := "keycore.errors." ++ kind.name
  message := message

/-- An exception as it is shown to people, with a line break at the end. -/
def Exception.trace (e : Exception) : String :=
  if e.message.isEmpty then e.qualifiedName ++ "\n"
  else e.qualifiedName ++ ": " ++ e.message ++ "\n"

/-- A log record. -/
structure Record where
  logger : Value
  levelName : Value
  message : Value
  args : Value := .tuple []
  exception? : Option Exception := none
  extras : Fields := []

namespace Record

/-- The names that every record has already. -/
def ownNames : List String :=
  ["name", "msg", "args", "levelname", "levelno", "pathname", "filename", "module", "exc_info",
    "exc_text", "stack_info", "lineno", "funcName", "created", "msecs", "relativeCreated",
    "thread", "threadName", "processName", "process"]

/-- The names under which a field is not shown. -/
def hiddenNames : List String :=
  ownNames ++ ["taskName", "message"]

/-- Gives the record a field.  Under one of the record's own names the field takes the place of
what the record says. -/
def setField (r : Record) (name : String) (value : Value) : Record :=
  if name = "name" then { r with logger := value }
  else if name = "levelname" then { r with levelName := value }
  else if name = "msg" then { r with message := value }
  else if name = "args" then { r with args := value }
  else if name = "exc_info" && !value.isTrue then { r with exception? := none }
  else { r with extras := r.extras.insert name value }

/-- The message with its arguments. -/
def text (r : Record) : Except Failure String :=
  formatMessage r.message r.args

/-- The fields that are shown: those under other names that do not begin with an underscore. -/
def shownExtras (r : Record) : Fields :=
  r.extras.filter fun (name, _) => !hiddenNames.contains name && !name.startsWith "_"

end Record

end Keyring.Log
