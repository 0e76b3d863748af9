/-
# What a change of settings leaves behind

* `Context.carried_of_ok`: a change that succeeds leaves the registry as its settings ask.
* `Context.kept_of_error`: a change that fails relaxes nothing, and what it changed nevertheless is
  determined by the error.
-/
import Keyring.Proofs.Context.Carrying

namespace Keyring.Context

variable {settings current : Settings} {fill : Bool} {start s before after : State}
  {id : ContextId} {calls : List Call} {r : Revision} {e : Failure}

/-! ## Changes that succeed -/

/-- A context was made, and anything was called since.  If a change of its settings succeeds,

* the context has the settings that were returned;
* the policy of its registry is restricted where these require FIPS;
* where they disallow new keys, new keys are allowed for no key type that is registered, and
  otherwise all entries are what they were;
* new keys are allowed for no key type for which they were not, and the key types, the managers,
  their classes and their primitives are what they were. -/
theorem carried_of_ok (hmade : create settings fill start = (.ok id, s))
    (hbefore : Run.final Call.action s calls = before)
    (h : r.action id before = (.ok current, after)) :
    (after.context id).settings = current
      ∧ (after.context id).registry = (before.context id).registry
      ∧ (current.fipsOnly = true →
        (after.policyOf (after.context id).registry).restricted = true)
      ∧ (current.newKeyAllowed = false →
        ∀ keyType ∈ (after.directory (after.context id).registry).keyTypes,
          Registry.isNewKeyAllowed (after.context id).registry keyType after = (.ok false, after))
      ∧ (current.newKeyAllowed = true →
        after.directory (after.context id).registry
          = before.directory (before.context id).registry)
      ∧ (before.directory (before.context id).registry).Tightens
        (after.directory (after.context id).registry)
      ∧ (after.directory (after.context id).registry).served
        = (before.directory (before.context id).registry).served := by
  have hsound : Sound id before := hbefore ▸ sound_final (sound_create hmade) calls
  obtain ⟨outcome, t, hrun, hregistry, -, hcarries⟩ := action_carries hsound r
  obtain ⟨rfl, rfl⟩ := Prod.mk.inj (h.symm.trans hrun)
  obtain ⟨hcurrent, hfips, hkept, hdisallowed⟩ := hcarries.of_ok
  refine ⟨hcurrent, hregistry, hfips, fun hallowed keyType hmem => ?_, hkept, hcarries.tightens,
    hcarries.served⟩
  replace hdisallowed : after.directory (after.context id).registry
      = (before.directory (before.context id).registry).disallow fun _ => True :=
    hdisallowed hallowed
  obtain ⟨entry, hfound⟩ := Directory.mem_keyTypes_iff.1 hmem
  have hflag : entry.newKeyAllowed = false := by
    rw [hdisallowed, Directory.find?_disallow, Option.map_eq_some_iff] at hfound
    obtain ⟨_, -, rfl⟩ := hfound
    rfl
  rw [← hflag]
  exact Action.bind_of_ok (Registry.entry_apply hfound)

/-- A manager that an application brings. -/
def applicationManager (serial : Nat) (keyType : String) (fipsStatus : Compatibility) : Manager :=
  .external serial {
    className := "ApplicationManager"
    keyType
    primitives := [.publicKeySign]
    fipsStatus
    parse := .ok
    check := fun _ => .ok () }

/-- A context with the defaults. -/
def defaultContext : State := (create {} true {}).2

/-- A manager of an application is registered beside the manager of JWT signing keys. -/
def oneRegistration : List Call :=
  [.register ⟨0⟩ { manager := applicationManager 1 "a" .notFips }]

/-- New keys are disallowed for both. -/
theorem carried_after_oneRegistration :
    create {} true {} = (.ok ⟨0⟩, defaultContext)
      ∧ ∃ after, (Revision.update [("new_key_allowed", .int 0)]).action ⟨0⟩
            (Run.final Call.action defaultContext oneRegistration)
          = (.ok { newKeyAllowed := false }, after)
        ∧ (after.context ⟨0⟩).settings = { newKeyAllowed := false }
        ∧ Registry.isNewKeyAllowed ⟨0⟩ Jwt.privateKeyType after = (.ok false, after)
        ∧ Registry.isNewKeyAllowed ⟨0⟩ "a" after = (.ok false, after) := by
  have hmade : create {} true {} = (.ok ⟨0⟩, defaultContext) := rfl
  obtain ⟨before, hbefore⟩ :
      ∃ before, Run.final Call.action defaultContext oneRegistration = before := ⟨_, rfl⟩
  have hregistry : (before.context ⟨0⟩).registry = ⟨0⟩ := hbefore ▸ rfl
  have hkeyTypes : (before.directory ⟨0⟩).keyTypes = [Jwt.privateKeyType, "a"] := hbefore ▸ rfl
  have hfree : (contents ⟨0⟩ before).policy.restricted = false := hbefore ▸ rfl
  have hsettings : (Revision.update [("new_key_allowed", .int 0)]).settings before.host
      (before.context ⟨0⟩).settings = .ok { newKeyAllowed := false } := hbefore ▸ rfl
  obtain ⟨_, after, hrun, -, -, hcarries⟩ := action_carries
    (hbefore ▸ sound_final (sound_create hmade) oneRegistration)
    (.update [("new_key_allowed", .int 0)])
  rw [hsettings] at hcarries
  obtain rfl := hcarries.eq_ok_of_free hfree rfl
  obtain ⟨hcurrent, hsame, -, hflags, -, -, hserved⟩ := carried_of_ok hmade hbefore hrun
  rw [hsame, hregistry] at hflags hserved
  rw [← Directory.map_fst_served, hserved, Directory.map_fst_served, hkeyTypes] at hflags
  exact ⟨hmade, after, hbefore ▸ hrun, hcurrent, hflags rfl _ List.mem_cons_self,
    hflags rfl _ (List.mem_cons_of_mem _ List.mem_cons_self)⟩

/-! ## Changes that fail -/

/-- A context was made, and anything was called since.  If a change of its settings fails,

* the policy of its registry is what it was, new keys are allowed for no key type for which they
  were not, and the key types, the managers, their classes and their primitives are what they were;
* if no settings could be made, all that the context holds is what it was;
* otherwise the context has the settings that were made.  Either FIPS is required of a registry that
  is not restricted and not empty, and all entries are what they were, or new keys are disallowed
  and a key type withstands.  In this case the error names the least that does, and exactly from
  those less than it the permission was taken away. -/
theorem kept_of_error (hmade : create settings fill start = (.ok id, s))
    (hbefore : Run.final Call.action s calls = before)
    (h : r.action id before = (.error e, after)) :
    (after.context id).registry = (before.context id).registry
      ∧ (contents id after).policy = (contents id before).policy
      ∧ (contents id before).directory.Tightens (contents id after).directory
      ∧ (contents id after).directory.served = (contents id before).directory.served
      ∧ ((r.settings before.host (contents id before).settings = .error e
          ∧ contents id after = contents id before)
        ∨ ∃ tightened, r.settings before.host (contents id before).settings = .ok tightened
          ∧ (contents id after).settings = tightened
          ∧ ((e = populated ∧ tightened.fipsOnly = true
              ∧ (contents id before).policy.restricted = false
              ∧ (contents id before).directory.isEmpty = false
              ∧ (contents id after).directory = (contents id before).directory)
            ∨ ∃ keyType, e = insufficient keyType ∧ tightened.newKeyAllowed = false
              ∧ (contents id before).directory.Withstands (contents id before).policy keyType
              ∧ (∀ k < keyType,
                ¬ (contents id before).directory.Withstands (contents id before).policy k)
              ∧ (contents id after).directory
                = (contents id before).directory.disallow (· < keyType))) := by
  have hsound : Sound id before := hbefore ▸ sound_final (sound_create hmade) calls
  obtain ⟨outcome, t, hrun, hregistry, -, hcarries⟩ := action_carries hsound r
  obtain ⟨rfl, rfl⟩ := Prod.mk.inj (h.symm.trans hrun)
  exact ⟨hregistry, hcarries.policy_of_error, hcarries.tightens, hcarries.served, hcarries.of_error⟩

/-- FIPS is required, and a certified module computes. -/
def certified : Settings where
  fipsOnly := true
  fipsModuleAvailable := true
  registerJwtRsa := false

/-- A context that is restricted and registers nothing of itself. -/
def certifiedContext : State := (create certified true {}).2

/-- Registers a manager of an application as conforming to FIPS, whatever it says of itself. -/
def conforming (serial : Nat) (keyType : String) (fipsStatus : Compatibility) :
    Directory.Request where
  manager := applicationManager serial keyType fipsStatus
  declared := .requiresCertifiedModule

/-- Two managers are registered as conforming; of itself, the second says that it does not. -/
def twoRegistrations : List Call :=
  [.register ⟨0⟩ (conforming 1 "a" .requiresCertifiedModule),
    .register ⟨0⟩ (conforming 2 "b" .notFips)]

/-- The second manager withstands when new keys are disallowed, and the first does not. -/
lemma update_twoRegistrations :
    ∃ after, (Revision.update [("new_key_allowed", .bool false)]).action ⟨0⟩
          (Run.final Call.action certifiedContext twoRegistrations)
        = (.error (insufficient "b"), after)
      ∧ ((contents ⟨0⟩ after).directory.find? "a").map (·.newKeyAllowed) = some false := by
  obtain ⟨before, hbefore⟩ :
      ∃ before, Run.final Call.action certifiedContext twoRegistrations = before := ⟨_, rfl⟩
  have hmade : create certified true {} = (.ok ⟨0⟩, certifiedContext) := rfl
  have hcontents : contents ⟨0⟩ before = {
      settings := certified
      policy := { restricted := true, moduleAvailable := true }
      directory := ⟨[("a", (conforming 1 "a" .requiresCertifiedModule).entry),
        ("b", (conforming 2 "b" .notFips).entry)]⟩ } := hbefore ▸ rfl
  have hsettings : (Revision.update [("new_key_allowed", .bool false)]).settings before.host
      (before.context ⟨0⟩).settings = .ok { certified with newKeyAllowed := false } := hbefore ▸ rfl
  obtain ⟨_, after, hrun, -, -, hcarries⟩ := action_carries
    (hbefore ▸ sound_final (sound_create hmade) twoRegistrations)
    (.update [("new_key_allowed", .bool false)])
  rw [hsettings, hcontents] at hcarries
  have hfirst : ∀ k < "b", ¬ Directory.Withstands { restricted := true, moduleAvailable := true }
      ⟨[("a", (conforming 1 "a" .requiresCertifiedModule).entry),
        ("b", (conforming 2 "b" .notFips).entry)]⟩ k := by
    intro k hlt hk
    have hmem : k ∈ ["a", "b"] := Directory.mem_keyTypes_of_withstands hk
    simp only [List.mem_cons, List.not_mem_nil, or_false] at hmem
    rcases hmem with rfl | rfl
    · obtain ⟨entry, hfound, -, hforbidden⟩ := hk
      obtain rfl := Option.some.inj hfound
      cases hforbidden
    · exact String.lt_irrefl _ hlt
  obtain rfl := hcarries.eq_error_of_withstands (fun _ => rfl) rfl ⟨_, rfl, rfl, rfl⟩ hfirst
  refine ⟨after, hbefore ▸ hrun, ?_⟩
  generalize contents ⟨0⟩ after = held at hcarries
  cases hcarries
  rfl

/-- The first key type lost the permission of new keys and the second did not, and the settings
disallow new keys. -/
theorem kept_after_twoRegistrations :
    create certified true {} = (.ok ⟨0⟩, certifiedContext)
      ∧ ∃ after, (Revision.update [("new_key_allowed", .bool false)]).action ⟨0⟩
            (Run.final Call.action certifiedContext twoRegistrations)
          = (.error (insufficient "b"), after)
        ∧ (contents ⟨0⟩ after).settings.newKeyAllowed = false
        ∧ (contents ⟨0⟩ after).policy = { restricted := true, moduleAvailable := true }
        ∧ ((contents ⟨0⟩ after).directory.find? "a").map (·.newKeyAllowed) = some false
        ∧ ((contents ⟨0⟩ after).directory.find? "b").map (·.newKeyAllowed) = some true := by
  have hmade : create certified true {} = (.ok ⟨0⟩, certifiedContext) := rfl
  obtain ⟨after, hrun, -⟩ := update_twoRegistrations
  obtain ⟨-, hpolicy, -, -, hcases⟩ := kept_of_error hmade rfl hrun
  have hsettings : (Revision.update [("new_key_allowed", .bool false)]).settings
      (Run.final Call.action certifiedContext twoRegistrations).host
      (contents ⟨0⟩ (Run.final Call.action certifiedContext twoRegistrations)).settings
      = .ok { certified with newKeyAllowed := false } := rfl
  rw [hsettings] at hcases
  refine ⟨hmade, after, hrun, ?_⟩
  rcases hcases with ⟨hinvalid, -⟩ | ⟨tightened, -, hheld, ⟨hlate, -⟩ | ⟨keyType, hkey, hcases⟩⟩
  · cases hinvalid
  · cases hlate
  · obtain rfl : "b" = keyType := by simpa [insufficient] using hkey
    obtain ⟨hdisallowed, -, -, hdirectory⟩ := hcases
    rw [hheld, hdirectory, hpolicy]
    exact ⟨hdisallowed, rfl, rfl, rfl⟩

/-- Whether a change that fails always leaves a part of what a context holds as it was. -/
def UnchangedByErrors {α : Type} (part : Contents → α) : Prop :=
  ∀ settings fill start id s calls (r : Revision) e after,
    create settings fill start = (.ok id, s) →
    r.action id (Run.final Call.action s calls) = (.error e, after) →
    part (contents id after) = part (contents id (Run.final Call.action s calls))

/-- Neither the settings nor the entries are always what they were: where FIPS is required too late,
the settings require it nevertheless, and where a key type withstands, those before it lost the
permission of new keys nevertheless. -/
theorem not_unchangedByErrors :
    ¬ UnchangedByErrors Contents.settings ∧ ¬ UnchangedByErrors Contents.directory := by
  constructor
  · intro h
    have hsame := h {} true {} ⟨0⟩ defaultContext [] (.update [("fips_only", .bool true)]) populated
      _ rfl rfl
    exact nomatch congrArg Settings.fipsOnly hsame
  · intro h
    obtain ⟨after, hrun, hflag⟩ := update_twoRegistrations
    rw [h certified true {} ⟨0⟩ certifiedContext twoRegistrations _ _ after rfl hrun] at hflag
    cases hflag

end Keyring.Context
