/-
# FIPS policy

An algorithm declares how it conforms to FIPS.  A policy says whether only conforming algorithms
may be used; once it is restricted nothing lifts the restriction.
-/
namespace Keyring

/-- How an algorithm conforms to FIPS. -/
inductive Compatibility where
  /-- Never usable under the restriction. -/
  | notFips
  /-- Usable under the restriction if a certified module computes. -/
  | requiresCertifiedModule
deriving DecidableEq

namespace Compatibility

/-- The name under which a declaration is reported. -/
def name : Compatibility → String
  | notFips => "not_fips"
  | requiresCertifiedModule => "requires_certified_module"

/-- The declaration with a name. -/
def ofName? (s : String) : Option Compatibility :=
  [notFips, requiresCertifiedModule].find? fun c => c.name = s

end Compatibility

/-- Whether use is restricted, and whether a certified module computes. -/
structure FipsPolicy where
  restricted : Bool := false
  moduleAvailable : Bool := false
deriving DecidableEq

namespace FipsPolicy

/-- The policy under the restriction. -/
def restrict (p : FipsPolicy) : FipsPolicy :=
  { p with restricted := true }

/-- Whether an algorithm with this declaration may be used. -/
def allows (p : FipsPolicy) (c : Compatibility) : Bool :=
  !p.restricted || (c == .requiresCertifiedModule && p.moduleAvailable)

/-- A truth value as it is shown to people. -/
def truth (b : Bool) : String :=
  if b then "True" else "False"

/-- The policy as it is shown to people. -/
def text (p : FipsPolicy) : String :=
  s!"FipsPolicy(restricted={truth p.restricted}, module_available={truth p.moduleAvailable})"

end FipsPolicy

end Keyring
