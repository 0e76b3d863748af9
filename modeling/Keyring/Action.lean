/-
# Actions

An action works on the state of a process and may fail.  What it changed before it failed stays
changed.

`Action.withBound` runs an action with further log fields bound, and afterwards binds exactly the
fields that were bound before, however the action ended.
-/
import Keyring.State

namespace Keyring

/-- A computation on the state of a process that may fail. -/
abbrev Action := ExceptT Failure (StateM State)

namespace Action

variable {α : Type}

/-- Fails with a reason and the key type concerned. -/
def refuse (reason : Reason) (typeUrl? : Option String := none) : Action α :=
  throw (.key ⟨reason, typeUrl?⟩)

/-- The outcome of a computation that does not touch the state. -/
def ofExcept (r : Except Failure α) : Action α :=
  match r with
  | .ok a => pure a
  | .error e => throw e

/-- The outcome of a computation that fails with errors of the family only. -/
def ofKey (r : Except KeyError α) : Action α :=
  match r with
  | .ok a => pure a
  | .error e => throw (.key e)

/-- Counts an event. -/
def count (e : Event) : Action Unit :=
  modify fun s => s.count e

/-- Logs what a part of this library says. -/
def note (severity : Log.Severity) (source : Log.Source) (message : String) : Action Unit :=
  modify fun s => { s with journal := s.journal.note severity source message }

/-- Runs an action with further log fields bound. -/
def withBound (fields : Fields) (body : Action α) : Action α := fun s =>
  let (outcome, after) := body { s with journal := s.journal.bind fields }
  (outcome, { after with journal := after.journal.rebind s.journal.bound })

end Action

end Keyring
