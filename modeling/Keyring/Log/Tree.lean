/-
# Loggers and handlers

Loggers form a tree by their dotted names, with the root logger above all.  A logger without a level
of its own has that of the nearest logger above it.  A record that the logger's level lets through
goes to the handlers of the logger and of the loggers above it, up to the first that keeps records
to itself; each handler drops what is below its own level.

`Tree.configure` gives a logger one handler, and a logger with a name keeps its records to itself
from then on.
-/
import Keyring.Log.Format

namespace Keyring.Log

/-- What writes lines. -/
structure Handler where
  json : Bool
  level : Int
  includeStack : Bool
deriving DecidableEq

/-- A logger; level zero stands for none of its own. -/
structure Logger where
  level : Int := 0
  propagate : Bool := true
  handlers : List Handler := []
deriving DecidableEq

/-- The loggers that differ from a fresh one, by name; the root logger has the empty name. -/
structure Tree where
  loggers : List (String × Logger)
deriving DecidableEq

/-- The name of a logger; the root logger has two. -/
def loggerName (name : String) : String :=
  if name = "root" then "" else name

/-- The name of the logger above: the part before the last dot, or else the root's. -/
def parentName (name : String) : String :=
  String.ofList ((name.toList.reverse.dropWhile (· ≠ '.')).drop 1).reverse

/-- The names from a logger up to the root, at most so many. -/
def pathFrom : (count : Nat) → String → List String
  | 0, _ => [""]
  | count + 1, name => if name = "" then [""] else name :: pathFrom count (parentName name)

/-- The names from a logger up to the root. -/
def path (name : String) : List String :=
  pathFrom name.length (loggerName name)

namespace Tree

/-- The logger with a name; a logger that is not listed is fresh. -/
def logger (t : Tree) (name : String) : Logger :=
  (t.loggers.lookup name).getD {}

/-- Puts a logger under a name. -/
def setLogger (t : Tree) (name : String) (l : Logger) : Tree :=
  ⟨(name, l) :: t.loggers.filter fun (n, _) => n ≠ name⟩

/-- The level that decides for a logger: the first on the way to the root that is not zero. -/
def effectiveLevel (t : Tree) (name : String) : Int :=
  (((path name).map fun n => (t.logger n).level).find? (· ≠ 0)).getD 0

/-- Whether a logger lets records of a level through; level zero and below never pass. -/
def enabled (t : Tree) (name : String) (level : Int) : Bool :=
  0 < level && t.effectiveLevel name ≤ level

/-- The handlers of the loggers with these names, up to the first that keeps records to itself. -/
def handlersOn (t : Tree) : List String → List Handler
  | [] => []
  | n :: ns =>
    let l := t.logger n
    l.handlers ++ (if l.propagate then handlersOn t ns else [])

/-- The handlers that write a record of a level. -/
def handlersFor (t : Tree) (name : String) (level : Int) : List Handler :=
  if t.enabled name level then (t.handlersOn (path name)).filter fun h => h.level ≤ level else []

/-- Gives a logger the level and one handler of that level. -/
def configure (t : Tree) (name : Option String) (level : Int) (json includeStack : Bool) : Tree :=
  let key := loggerName (name.getD "")
  let named := !(name.getD "").isEmpty
  let l := t.logger key
  t.setLogger key {
    level
    propagate := l.propagate && !named
    handlers := [⟨json, level, includeStack⟩] }

end Tree

/-- The loggers before anything is configured. -/
def initialTree : Tree :=
  ⟨[("keycore", { level := 10 }), ("", { level := 30 })]⟩

/-- The level that a text asks for, in letters of either case; a text that names none asks for
`INFO`.  Two names belong to something else than a level and are refused. -/
def requestedLevel (level : Option String) : Except Failure Int :=
  let name := level.getD ""
  let name := Text.upper (if name.isEmpty then "INFO" else name)
  if name = "BASIC_FORMAT" then .error .range
  else if name = "_STYLES" then .error .mismatch
  else .ok ((namedLevels.lookup name).getD 20)

end Keyring.Log
