/-
# Metrics

Counters of what the library did.  Nothing is counted while metrics are switched off; switching them
off keeps the counts.
-/
namespace Keyring

/-- How a registration ended. -/
inductive RegistrationOutcome where
  /-- A new key type. -/
  | inserted
  /-- A key type that was registered already. -/
  | refreshed
  | conflict
  | policy
  | fips
deriving DecidableEq

/-- How a lookup ended. -/
inductive LookupOutcome where
  | found
  | unknown
  | unsupported
deriving DecidableEq

/-- What is counted. -/
inductive Event where
  | registration (outcome : RegistrationOutcome)
  | lookup (outcome : LookupOutcome)
  | selfTest (passed : Bool)
  | primitiveCreated (keyType : String)
  | keyGenerated (modulusBits : Nat)
deriving DecidableEq

namespace Event

/-- The name of the counter. -/
def counter : Event → String
  | registration _ => "keycore_registry_register_total"
  | lookup _ => "keycore_registry_lookup_total"
  | selfTest _ => "keycore_self_test_total"
  | primitiveCreated _ => "keycore_primitive_created_total"
  | keyGenerated _ => "keycore_keygen_latency_seconds_count"

/-- The label within the counter. -/
def label : Event → String
  | registration .inserted => "outcome=ok"
  | registration .refreshed => "outcome=noop"
  | registration .conflict => "outcome=conflict"
  | registration .policy => "outcome=policy"
  | registration .fips => "outcome=fips"
  | lookup .found => "outcome=ok"
  | lookup .unknown => "outcome=unknown"
  | lookup .unsupported => "outcome=unsupported"
  | selfTest passed => if passed then "result=pass" else "result=fail"
  | primitiveCreated keyType => "type_url=" ++ keyType
  | keyGenerated modulusBits => s!"modulus_bits={modulusBits}"

end Event

/-- The counters that are not zero, no event twice. -/
structure Metrics where
  enabled : Bool := true
  counts : List (Event × Nat) := []
deriving DecidableEq

namespace Metrics

/-- How often an event was counted. -/
def count (m : Metrics) (e : Event) : Nat :=
  (m.counts.lookup e).getD 0

/-- One more of an event. -/
def bump (e : Event) : List (Event × Nat) → List (Event × Nat)
  | [] => [(e, 1)]
  | (f, n) :: rest => if f = e then (f, n + 1) :: rest else (f, n) :: bump e rest

/-- Counts an event, unless metrics are switched off. -/
def record (m : Metrics) (e : Event) : Metrics :=
  if m.enabled then { m with counts := bump e m.counts } else m

/-- Counter, label and count of every event, in the order of counter and label. -/
def report (m : Metrics) : List (String × String × Nat) :=
  (m.counts.map fun (e, n) => (e.counter, e.label, n)).mergeSort fun a b =>
    a.1 < b.1 || (a.1 == b.1 && a.2.1 ≤ b.2.1)

end Metrics

end Keyring
