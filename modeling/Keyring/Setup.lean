/-
# Setting up a process

Logging and metrics are set up once for the process, and one context serves it: `Setup.context`
makes it from the settings of the host at the first call, after it has set up logging and metrics as
these settings ask.
-/
import Keyring.Context

namespace Keyring.Setup

/-- Gives a logger one handler that writes from a level on; without a name it is the root logger. -/
def configureLogging (level : Option String) (json : Bool := true)
    (includeStack : Option Bool := none) (logger : Option String := none) : Action Unit := do
  let s ← get
  let journal ← Action.ofExcept (s.journal.configure level json includeStack logger)
  set { s with journal }

/-- Logs a statement through a logger. -/
def log (logger : String) (statement : Log.Statement) : Action Unit := do
  let s ← get
  let journal ← Action.ofExcept (s.journal.log logger statement)
  set { s with journal }

/-- Switches metrics on or off. -/
def enableMetrics (enabled : Bool) : Action Unit :=
  modify fun s => { s with metrics := { s.metrics with enabled } }

/-- The context of the process; the first call makes it.  Only the logger of this library is set up,
since the root logger belongs to the application. -/
def context : Action ContextId := do
  match (← get).defaultContext? with
  | some id => pure id
  | none =>
    let settings ← Settings.loadFromHost
    configureLogging settings.logLevel settings.logJson none "keycore"
    enableMetrics settings.metricsEnabled
    let id ← Context.create settings
    modify fun s => { s with defaultContext? := some id }
    pure id

/-- Forgets the context of the process, so that the next call makes a new one. -/
def forgetContext : Action Unit :=
  modify fun s => { s with defaultContext? := none }

end Keyring.Setup
