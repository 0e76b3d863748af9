/-
# Changing settings

Settings change by overrides.  Two of them only tighten: once FIPS is required it stays required,
and once new keys are disallowed they stay disallowed.  An override that would relax such a setting
is passed over, whatever its value; names that are no settings are passed over too.

Whether an override would relax a setting is decided by its value as given: a number or an object
equal to the strict truth value agrees with it, a word never does.
-/
import Keyring.Settings.Load

namespace Keyring.Settings

/-- The value in which a setting is strict, for the two that only tighten. -/
def strictValue? : Name → Option Bool
  | .fipsOnly => some true
  | .newKeyAllowed => some false
  | _ => none

/-- Whether an override would relax a setting that is strict. -/
def relaxes (old : Value) (name : Name) (new : Value) : Bool :=
  match strictValue? name with
  | none => false
  | some strict => old.equalsTruth strict && !new.equalsTruth strict

/-- Settings in the course of a change: the values so far, and the overrides that were passed over
because they would relax a setting. -/
structure Change where
  fields : Fields
  refused : List Name

/-- Takes one override into a change. -/
def Change.add (c : Change) (name : String) (new : Value) : Change :=
  match Name.ofText? name with
  | none => c
  | some n =>
    let old := (c.fields.lookup name).getD .null
    if relaxes old n new then { c with refused := c.refused ++ [n] }
    else { c with fields := c.fields.insert name new }

/-- The change that overrides make, one after the other. -/
def change (s : Settings) (overrides : Fields) : Change :=
  overrides.foldl (fun c (name, v) => c.add name v) ⟨s.toFields, []⟩

/-- Settings once made are fixed: giving one of them another value in place is refused. -/
def replaceInPlace (_ : Settings) (name : String) (_ : Value) : Except Failure Settings :=
  .error (.settings [(name, .frozen)])

/-- The settings after overrides, or the problems of the overrides that count. -/
def override (s : Settings) (overrides : Fields) : Except Failure Settings :=
  ofFields (s.change overrides).fields

end Keyring.Settings
