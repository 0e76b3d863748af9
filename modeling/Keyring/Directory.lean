/-
# Directories of key managers

A directory maps key types to key managers.  Entries are never removed one by one, and an entry is
replaced only by a manager of the same class.

Registering a manager under a FIPS policy

* is refused if the policy does not allow its declaration, if its key type has a manager of another
  class, or if it would allow new keys of a type for which they are disallowed;
* inserts an entry for a new key type;
* otherwise refreshes the entry: new keys are allowed as asked, and the manager stays, unless the
  new one is forced in.

An entry keeps the class of its manager and what the manager could make when it was registered;
lookups go by these.
-/
import Keyring.Manager
import Keyring.Table

namespace Keyring

/-- The manager of a key type, and whether new keys may be made. -/
structure DirectoryEntry where
  manager : Manager
  implementingClass : ManagerClass
  /-- The kinds of primitive that are looked up. -/
  primitives : List PrimitiveKind
  newKeyAllowed : Bool

/-- Whether the entry is found for a kind of primitive. -/
def DirectoryEntry.supports (e : DirectoryEntry) (kind : PrimitiveKind) : Bool :=
  e.primitives.contains kind

/-- The entries by key type, no key type twice. -/
structure Directory where
  entries : List (String × DirectoryEntry) := []

namespace Directory

/-- The entry of a key type. -/
def find? (d : Directory) (keyType : String) : Option DirectoryEntry :=
  d.entries.lookup keyType

/-- Puts an entry under a key type. -/
def insert (d : Directory) (keyType : String) (entry : DirectoryEntry) : Directory :=
  ⟨Named.put keyType entry d.entries⟩

/-- Whether nothing is registered. -/
def isEmpty (d : Directory) : Bool :=
  d.entries.isEmpty

/-- The registered key types. -/
def keyTypes (d : Directory) : List String :=
  d.entries.map (·.1)

/-- What is asked for when a manager is registered. -/
structure Request where
  manager : Manager
  /-- What the caller declares about FIPS. -/
  declared : Compatibility := .notFips
  newKeyAllowed : Bool := true
  /-- The new instance takes the place of one of the same class. -/
  force : Bool := false

/-- The entry for a manager that is newly registered. -/
def Request.entry (r : Request) : DirectoryEntry where
  manager := r.manager
  implementingClass := r.manager.implementingClass
  primitives := r.manager.primitives
  newKeyAllowed := r.newKeyAllowed

/-- Why a registration is refused. -/
inductive Refusal where
  | fips
  | otherClass (existing : ManagerClass)
  | newKeysDisallowed

/-- Whether an accepted registration was for a new key type. -/
inductive Acceptance where
  | inserted
  | refreshed
deriving DecidableEq

/-- Registers a manager under a policy. -/
def register (policy : FipsPolicy) (d : Directory) (r : Request) :
    Except Refusal (Acceptance × Directory) :=
  let keyType := r.manager.keyType
  if !policy.allows r.declared then .error .fips
  else
    match d.find? keyType with
    | none => .ok (.inserted, d.insert keyType r.entry)
    | some existing =>
      if existing.implementingClass ≠ r.manager.implementingClass then
        .error (.otherClass existing.implementingClass)
      else if r.newKeyAllowed && !existing.newKeyAllowed then .error .newKeysDisallowed
      else
        let entry := if r.force then r.entry else { existing with newKeyAllowed := r.newKeyAllowed }
        .ok (.refreshed, d.insert keyType entry)

/-- Puts the restriction on a policy, unless something is registered; a policy that is restricted
already stays as it is. -/
def restrict (policy : FipsPolicy) (d : Directory) : Except Unit FipsPolicy :=
  if policy.restricted then .ok policy
  else if d.isEmpty then .ok policy.restrict
  else .error ()

end Directory

end Keyring
