/-
# Registering the manager of signing keys

The manager of signing keys is registered first, and then the templates that come with this library
are put.  Each of the two steps is all or nothing, but the second one does not take the first one
back.

* `Registered` is what an accepted registration leaves of a registry.
* `register_of_refusal`, `register_of_put` and `register_of_conflict` are the three ways in which
  the call ends, and `register_outcome` puts them together.
* `not_allOrNothing_takenName`: a name that is taken leaves the manager registered.
-/
import Keyring.Proofs.Registry.Calls
import Keyring.Proofs.Templates.History
import Keyring.SigningKeys

namespace Keyring.SigningKeys

variable {registry : RegistryId} {templates : TemplatesId} {newKeyAllowed : Bool} {s : State}

/-- The manager that is made for a registry. -/
def managerFor (registry : RegistryId) (s : State) : Manager :=
  .jwtSigner s.managerCount (s.registry registry).policy

/-- What is asked of the registry. -/
def request (registry : RegistryId) (newKeyAllowed : Bool) (s : State) : Directory.Request where
  manager := managerFor registry s
  declared := .requiresCertifiedModule
  newKeyAllowed

/-- The registry accepted the manager: it has the key type as asked, and is otherwise as it was. -/
structure Registered (registry : RegistryId) (newKeyAllowed : Bool) (s t : State) : Prop where
  accepted : ∃ acceptance, Directory.register (s.policyOf registry) (s.directory registry)
    (request registry newKeyAllowed s) = .ok (acceptance, t.directory registry)
  entry : ∃ entry, (t.directory registry).find? Jwt.privateKeyType = some entry
    ∧ entry.implementingClass = .jwtSigner ∧ entry.newKeyAllowed = newKeyAllowed
  others : ∀ keyType, keyType ≠ Jwt.privateKeyType →
    (t.directory registry).find? keyType = (s.directory registry).find? keyType
  policy : t.policyOf registry = s.policyOf registry

lemma Registered.of_rows {t u : State} (h : Registered registry newKeyAllowed s t)
    (hregistries : u.registries = t.registries) (hpolicies : u.policies = t.policies) :
    Registered registry newKeyAllowed s u := by
  have hrow : u.registry registry = t.registry registry := by
    rw [State.registry, hregistries, State.registry]
  have hdirectory : u.directory registry = t.directory registry := congrArg Registry.directory hrow
  have hpolicy : u.policyOf registry = t.policyOf registry := by
    rw [State.policyOf, hrow, State.policy, hpolicies]
    rfl
  refine ⟨?_, ?_, ?_, hpolicy.trans h.policy⟩
  · rw [hdirectory]
    exact h.accepted
  · rw [hdirectory]
    exact h.entry
  · rw [hdirectory]
    exact h.others

/-! ## The two steps -/

/-- The state with one more manager made. -/
def counted (s : State) : State :=
  { s with managerCount := s.managerCount + 1 }

/-- What is done when the manager has been made. -/
lemma register_apply (registry : RegistryId) (templates : TemplatesId) (newKeyAllowed : Bool)
    (s : State) :
    register registry templates newKeyAllowed s
      = (Registry.register registry (request registry newKeyAllowed s) >>= fun _ =>
          Templates.putAll templates Jwt.Template.named >>= fun _ =>
            pure (managerFor registry s)) (counted s) := rfl

/-- What the registry refuses leaves everything as it is. -/
lemma register_of_refusal (templates : TemplatesId) {refusal : Directory.Refusal}
    (h : Directory.register (s.policyOf registry) (s.directory registry)
      (request registry newKeyAllowed s) = .error refusal) :
    ∃ t, register registry templates newKeyAllowed s
        = (.error (.key ⟨refusal.reason (request registry newKeyAllowed s),
          some Jwt.privateKeyType⟩), t)
      ∧ t.registries = s.registries ∧ t.policies = s.policies
      ∧ t.templateTables = s.templateTables := by
  obtain ⟨hout, hobjects⟩ := Registry.register_of_error (s := counted s) h
  rw [register_apply, Action.bind_of_error (Prod.ext hout rfl)]
  exact ⟨_, rfl, State.registries_eq_of_objects (s := counted s) hobjects,
    State.policies_eq_of_objects (s := counted s) hobjects,
    State.eq_of_objects (s := counted s) hobjects (·.templateTables) fun _ => rfl⟩

/-- An accepted registration is followed by putting the templates. -/
lemma register_of_accepted {acceptance : Directory.Acceptance} {d : Directory}
    (hregistry : registry.index < s.registries.next)
    (h : Directory.register (s.policyOf registry) (s.directory registry)
      (request registry newKeyAllowed s) = .ok (acceptance, d)) :
    ∃ t, Registered registry newKeyAllowed s t ∧ t.templateTables = s.templateTables
      ∧ register registry templates newKeyAllowed s
        = (Templates.putAll templates Jwt.Template.named >>= fun _ =>
            pure (managerFor registry s)) t := by
  obtain ⟨hout, hobjects⟩ := Registry.register_of_ok (s := counted s) h
  obtain ⟨t, ht⟩ : ∃ t, (Registry.register registry (request registry newKeyAllowed s)
      (counted s)).2 = t := ⟨_, rfl⟩
  rw [ht] at hobjects
  have hdirectory : t.directory registry = d := by
    rw [State.directory_eq_of_objects hobjects]
    exact State.directory_setDirectory_self (s := counted s) hregistry d
  have hpolicy : t.policyOf registry = s.policyOf registry := by
    have hunder := State.policy_registry_setDirectory (counted s) registry d registry
    have hpolicies := State.policies_eq_of_objects hobjects
    rw [State.policyOf, State.registry_eq_of_objects hobjects, hunder, State.policy, hpolicies]
    rfl
  rw [register_apply, Action.bind_of_ok (Prod.ext hout ht)]
  refine ⟨t, ⟨⟨acceptance, hdirectory ▸ h⟩, ?_, fun keyType hother => ?_, hpolicy⟩, ?_, rfl⟩
  · rw [hdirectory]
    exact Directory.exists_find?_of_register h
  · rw [hdirectory]
    exact Directory.find?_of_register h hother
  · exact State.eq_of_objects hobjects (·.templateTables) fun _ => rfl

section Accepted

variable {acceptance : Directory.Acceptance} {d : Directory}
  (hregistry : registry.index < s.registries.next)
  (haccepted : Directory.register (s.policyOf registry) (s.directory registry)
    (request registry newKeyAllowed s) = .ok (acceptance, d))
include hregistry haccepted

/-- Templates that the table takes are put after an accepted registration. -/
lemma register_of_put {table : Jwt.TemplateTable}
    (htemplates : templates.index < s.templateTables.next)
    (hput : (s.templates templates).putAll Jwt.Template.named = .ok table) :
    ∃ t, register registry templates newKeyAllowed s = (.ok (managerFor registry s), t)
      ∧ Registered registry newKeyAllowed s t ∧ t.templates templates = table := by
  obtain ⟨t, hregistered, htables, hrun⟩ := register_of_accepted hregistry haccepted
  rw [← htables] at htemplates
  have htable : t.templates templates = s.templates templates :=
    congrArg (·.get templates.index) htables
  rw [← htable] at hput
  obtain ⟨u, hrun', hobjects⟩ := Templates.putAll_of_ok hput
  have hregistries := State.registries_eq_of_objects hobjects
  have hpolicies := State.policies_eq_of_objects hobjects
  rw [hrun, Action.bind_of_ok hrun']
  refine ⟨u, rfl, hregistered.of_rows hregistries hpolicies, ?_⟩
  rw [State.templates_eq_of_objects hobjects]
  exact Table.get_set_self _ _ _ htemplates

/-- A name that is taken is noticed after the registration has been accepted. -/
lemma register_of_conflict {name : String}
    (hfirst : (s.templates templates).FirstConflict Jwt.Template.named name) :
    ∃ t, register registry templates newKeyAllowed s
        = (.error (.key ⟨.templateConflict name, none⟩), t)
      ∧ Registered registry newKeyAllowed s t ∧ t.templateTables = s.templateTables := by
  obtain ⟨t, hregistered, htables, hrun⟩ := register_of_accepted hregistry haccepted
  have htable : t.templates templates = s.templates templates :=
    congrArg (·.get templates.index) htables
  have hput : (t.templates templates).putAll Jwt.Template.named
      = .error ⟨.templateConflict name, none⟩ := by
    rw [htable]
    exact Jwt.TemplateTable.putAll_eq_error_iff.2 ⟨name, hfirst, rfl⟩
  rw [hrun, Action.bind_of_error (Templates.putAll_of_error hput)]
  exact ⟨t, rfl, hregistered, htables⟩

end Accepted

/-! ## How registering ends -/

lemma nodup_named : (Jwt.Template.named.map (·.1)).Nodup := by decide +kernel

/-- Registering the manager of signing keys with its templates ends in one of three ways.

* The registry accepts the manager and no name is taken: the key type is registered, and the table
  holds the templates of this library besides what it held before.
* The registry refuses the manager, for one of its own reasons: nothing has changed.
* The registry accepts the manager, but a name stands for another template: the table has not
  changed, and the key type is registered nevertheless. -/
theorem register_outcome (newKeyAllowed : Bool) (hregistry : registry.index < s.registries.next)
    (htemplates : templates.index < s.templateTables.next) :
    (∃ t, register registry templates newKeyAllowed s = (.ok (managerFor registry s), t)
        ∧ Registered registry newKeyAllowed s t
        ∧ (∀ p ∈ Jwt.Template.named, ¬ (s.templates templates).BindsOther p.1 p.2)
        ∧ ∀ name template, (t.templates templates).find? name = some template
          ↔ (s.templates templates).find? name = some template
            ∨ (name, template) ∈ Jwt.Template.named)
      ∨ (∃ refusal t, Directory.register (s.policyOf registry) (s.directory registry)
            (request registry newKeyAllowed s) = .error refusal
          ∧ register registry templates newKeyAllowed s
            = (.error (.key ⟨refusal.reason (request registry newKeyAllowed s),
              some Jwt.privateKeyType⟩), t)
          ∧ t.registries = s.registries ∧ t.policies = s.policies
          ∧ t.templateTables = s.templateTables)
      ∨ ∃ name t, (s.templates templates).FirstConflict Jwt.Template.named name
          ∧ register registry templates newKeyAllowed s
            = (.error (.key ⟨.templateConflict name, none⟩), t)
          ∧ Registered registry newKeyAllowed s t ∧ t.templateTables = s.templateTables := by
  cases haccepted : Directory.register (s.policyOf registry) (s.directory registry)
      (request registry newKeyAllowed s) with
  | error refusal =>
    obtain ⟨t, h⟩ := register_of_refusal templates haccepted
    exact .inr (.inl ⟨refusal, t, rfl, h⟩)
  | ok accepted =>
    cases hput : (s.templates templates).putAll Jwt.Template.named with
    | ok table =>
      obtain ⟨t, h, hregistered, htable⟩ := register_of_put hregistry haccepted htemplates hput
      refine .inl ⟨t, h, hregistered, (Jwt.TemplateTable.putAll_eq_ok_iff.1 hput).1, fun _ _ => ?_⟩
      rw [htable]
      exact Jwt.TemplateTable.find?_of_putAll nodup_named hput
    | error e =>
      obtain ⟨name, hfirst, rfl⟩ := Jwt.TemplateTable.putAll_eq_error_iff.1 hput
      obtain ⟨t, h⟩ := register_of_conflict hregistry haccepted hfirst
      exact .inr (.inr ⟨name, t, hfirst, h⟩)

/-- Whether a registration is all or nothing: either the key type is registered and the templates of
this library are bound, or neither the registry nor the table has changed. -/
def AllOrNothing (registry : RegistryId) (templates : TemplatesId) (newKeyAllowed : Bool)
    (s : State) : Prop :=
  ∃ outcome t, register registry templates newKeyAllowed s = (outcome, t)
    ∧ ((∃ manager, outcome = .ok manager
        ∧ (∃ entry, (t.directory registry).find? Jwt.privateKeyType = some entry
          ∧ entry.implementingClass = .jwtSigner)
        ∧ ∀ p ∈ Jwt.Template.named, (t.templates templates).find? p.1 = some p.2)
      ∨ ∃ e, outcome = .error e ∧ t.registry registry = s.registry registry
        ∧ t.templates templates = s.templates templates)

/-- A process with an empty registry, and a table in which the last name of the library's templates
stands for a template of another size. -/
def takenName : State where
  policies := ⟨[{}]⟩
  registries := ⟨[{ policy := ⟨0⟩ }]⟩
  templateTables := ⟨[{ entries := [("JWT_RS512_4096_F4", Templates.smallTemplate)] }]⟩

/-- The manager stays registered although the call failed. -/
theorem not_allOrNothing_takenName : ¬ AllOrNothing ⟨0⟩ ⟨0⟩ true takenName := by
  rintro ⟨outcome, t, hrun, ⟨manager, rfl, -⟩ | ⟨e, rfl, hregistry, -⟩⟩
  · cases hrun
  · obtain rfl : (register ⟨0⟩ ⟨0⟩ true takenName).2 = t := congrArg Prod.snd hrun
    have hregistered : ((register ⟨0⟩ ⟨0⟩ true takenName).2.registry ⟨0⟩).directory.keyTypes
        = [Jwt.privateKeyType] := by decide +kernel
    rw [hregistry] at hregistered
    cases hregistered

/-- The manager and its key type are there, and so is what stood in the table. -/
theorem register_outcome_takenName :
    0 < takenName.registries.next ∧ 0 < takenName.templateTables.next
      ∧ ∃ t, register ⟨0⟩ ⟨0⟩ true takenName
          = (.error (.key ⟨.templateConflict "JWT_RS512_4096_F4", none⟩), t)
        ∧ Registered ⟨0⟩ true takenName t ∧ t.templateTables = takenName.templateTables := by
  have hregistry : (RegistryId.mk 0).index < takenName.registries.next := Nat.zero_lt_one
  have htemplates : (TemplatesId.mk 0).index < takenName.templateTables.next := Nat.zero_lt_one
  have hout : (register ⟨0⟩ ⟨0⟩ true takenName).1
      = .error (.key ⟨.templateConflict "JWT_RS512_4096_F4", none⟩) := rfl
  refine ⟨hregistry, htemplates, ?_⟩
  rcases register_outcome true hregistry htemplates with
    ⟨t, hrun, -⟩ | ⟨refusal, t, hrefused, -⟩ | ⟨name, t, -, hrun, hregistered, htables⟩
  · rw [hrun] at hout
    cases hout
  · cases hrefused
  · refine ⟨t, ?_, hregistered, htables⟩
    rw [hrun] at hout
    exact hrun.trans (congrArg (·, t) hout)

end Keyring.SigningKeys
