/-
# How calls on registries run

What a call on a registry does to the objects of the state, and how it ends; what it counts and logs
decides neither.

* `Registry.register_of_error` and `Registry.register_of_ok` follow the registration into the
  directory; a refused one leaves all objects as they were.
* `Registry.restrict_cases` lists the three ways in which a restriction ends.
* `Registry.entry_apply` and `Registry.entry_of_none` are about reading an entry, and
  `Registry.isRegistered_apply`, `Registry.isNewKeyAllowed_apply`, `Registry.lookup_eq_ok_iff` and
  `Registry.lookup_cases` about looking up.
-/
import Keyring.Proofs.Action
import Keyring.Proofs.Directory
import Keyring.Registry

namespace Keyring

/-! ## Directories of the state -/

namespace State

variable {s t : State} {id : RegistryId}

lemma directory_eq_of_objects (h : t.objects = s.objects) (id : RegistryId) :
    t.directory id = s.directory id :=
  eq_of_objects h (·.directory id) fun _ => rfl

lemma next_eq_of_objects (h : t.objects = s.objects) : t.registries.next = s.registries.next :=
  eq_of_objects h (·.registries.next) fun _ => rfl

lemma objects_setDirectory (s : State) (id : RegistryId) (d : Directory) :
    (s.setDirectory id d).objects = s.objects.setDirectory id d := rfl

lemma next_setDirectory (s : State) (id : RegistryId) (d : Directory) :
    (s.setDirectory id d).registries.next = s.registries.next := Table.next_set ..

lemma registry_setDirectory_self (h : id.index < s.registries.next) (d : Directory) :
    (s.setDirectory id d).registry id = { s.registry id with directory := d } :=
  Table.get_set_self _ _ _ h

lemma registry_setDirectory_of_ne {other : RegistryId} (h : other ≠ id) (d : Directory) :
    (s.setDirectory id d).registry other = s.registry other :=
  Table.get_set_of_ne _ _ fun hindex => h (congrArg RegistryId.mk hindex.symm)

/-- A registry stays under its policy. -/
lemma policy_registry_setDirectory (s : State) (id : RegistryId) (d : Directory)
    (other : RegistryId) : ((s.setDirectory id d).registry other).policy
      = (s.registry other).policy :=
  Table.apply_get_set Registry.policy s.registries id.index { s.registry id with directory := d }
    rfl other.index

lemma directory_setDirectory_self (h : id.index < s.registries.next) (d : Directory) :
    (s.setDirectory id d).directory id = d := by
  rw [directory, registry_setDirectory_self h]

lemma policyOf_setPolicy_self (h : (s.registry id).policy.index < s.policies.next)
    (policy : FipsPolicy) : (s.setPolicy (s.registry id).policy policy).policyOf id = policy :=
  Table.get_set_self _ _ _ h

end State

namespace Registry

variable {s : State} {id : RegistryId} {r : Directory.Request}

/-! ## Registering -/

/-- The fields that are bound for a registration do not show in what it is given. -/
lemma register_apply (id : RegistryId) (r : Directory.Request) (s : State) :
    ∃ bound : State, bound.objects = s.objects
      ∧ bound.policyOf id = s.policyOf id ∧ bound.directory id = s.directory id
      ∧ (register id r s).1 = (registerPlain id r bound).1
      ∧ (register id r s).2.objects = (registerPlain id r bound).2.objects := by
  obtain ⟨hout, hobj⟩ := Action.withBound_apply [("type_url", .text r.manager.keyType)]
    (registerPlain id r) s
  exact ⟨{ s with journal := s.journal.bind [("type_url", .text r.manager.keyType)] },
    rfl, rfl, rfl, hout, hobj⟩

lemma register_of_error {refusal : Directory.Refusal}
    (h : Directory.register (s.policyOf id) (s.directory id) r = .error refusal) :
    (register id r s).1 = .error (.key ⟨refusal.reason r, some r.manager.keyType⟩)
      ∧ (register id r s).2.objects = s.objects := by
  obtain ⟨bound, hbound, hpolicy, hdirectory, hout, hobj⟩ := register_apply id r s
  rw [← hpolicy, ← hdirectory] at h
  rw [hout, hobj, ← hbound, registerPlain, Action.bind_of_ok (Action.get_apply bound)]
  simp only [h]
  exact ⟨rfl, rfl⟩

lemma register_of_ok {acceptance : Directory.Acceptance} {directory : Directory}
    (h : Directory.register (s.policyOf id) (s.directory id) r = .ok (acceptance, directory)) :
    (register id r s).1 = .ok ()
      ∧ (register id r s).2.objects = (s.setDirectory id directory).objects := by
  obtain ⟨bound, hbound, hpolicy, hdirectory, hout, hobj⟩ := register_apply id r s
  rw [← hpolicy, ← hdirectory] at h
  rw [hout, hobj, State.objects_setDirectory, ← hbound, ← State.objects_setDirectory,
    registerPlain, Action.bind_of_ok (Action.get_apply bound)]
  simp only [h]
  cases acceptance <;> exact ⟨rfl, rfl⟩

/-- A registration succeeds if the directory accepts it. -/
lemma register_eq_ok {t : State} (h : register id r s = (.ok (), t)) :
    ∃ acceptance d, Directory.register (s.policyOf id) (s.directory id) r = .ok (acceptance, d)
      ∧ t.objects = (s.setDirectory id d).objects := by
  cases hregister : Directory.register (s.policyOf id) (s.directory id) r with
  | error refusal =>
    have hout := (register_of_error hregister).1
    rw [h] at hout
    cases hout
  | ok accepted =>
    obtain ⟨acceptance, d⟩ := accepted
    refine ⟨acceptance, d, rfl, ?_⟩
    rw [← (register_of_ok hregister).2, h]

/-! ## Restricting -/

/-- A restriction finds the policy restricted already, or restricts it for an empty registry, or is
refused. -/
lemma restrict_cases (id : RegistryId) (s : State) :
    ((s.policyOf id).restricted = true ∧ restrict id s = (.ok (), s))
      ∨ ((s.policyOf id).restricted = false ∧ (s.directory id).isEmpty = true
        ∧ (restrict id s).1 = .ok ()
        ∧ (restrict id s).2.objects
          = (s.setPolicy (s.registry id).policy (s.policyOf id).restrict).objects)
      ∨ ((s.policyOf id).restricted = false ∧ (s.directory id).isEmpty = false
        ∧ restrict id s = (.error (.key ⟨.registryPopulated, none⟩), s)) := by
  rw [restrict, Action.bind_of_ok (Action.get_apply s)]
  cases hrestricted : (s.policyOf id).restricted with
  | true => exact .inl ⟨rfl, rfl⟩
  | false =>
    cases hempty : (s.directory id).isEmpty with
    | true =>
      refine .inr (.inl ⟨rfl, rfl, ?_⟩)
      simp only [Directory.restrict, hrestricted, hempty, Bool.false_eq_true, if_false, if_true]
      exact ⟨rfl, rfl⟩
    | false =>
      refine .inr (.inr ⟨rfl, rfl, ?_⟩)
      simp only [Directory.restrict, hrestricted, hempty, Bool.false_eq_true, if_false]
      rfl

/-- A restriction registers nothing. -/
lemma directory_restrict (id other : RegistryId) (s : State) :
    (restrict id s).2.directory other = s.directory other := by
  rcases restrict_cases id s with ⟨-, h⟩ | ⟨-, -, -, h⟩ | ⟨-, -, h⟩
  · rw [h]
  · rw [State.directory_eq_of_objects h]
    rfl
  · rw [h]

/-! ## Looking up -/

lemma isRegistered_apply (id : RegistryId) (keyType : String) (s : State) :
    isRegistered id keyType s = (.ok ((s.directory id).find? keyType).isSome, s) := rfl

lemma entry_apply {keyType : String} {entry : DirectoryEntry}
    (h : (s.directory id).find? keyType = some entry) :
    Registry.entry id keyType s = (.ok entry, s) := by
  rw [Registry.entry, Action.bind_of_ok (Action.get_apply s)]
  simp only [h]
  rfl

lemma isNewKeyAllowed_apply {keyType : String} {entry : DirectoryEntry}
    (h : (s.directory id).find? keyType = some entry) :
    isNewKeyAllowed id keyType s = (.ok entry.newKeyAllowed, s) := by
  rw [isNewKeyAllowed, Action.bind_of_ok (entry_apply h)]
  rfl

lemma entry_of_none {keyType : String} (h : (s.directory id).find? keyType = none) :
    Registry.entry id keyType s
      = (.error (.key ⟨.keyTypeUnknown keyType, some keyType⟩), s.count (.lookup .unknown)) := by
  rw [Registry.entry, Action.bind_of_ok (Action.get_apply s)]
  simp only [h]
  rfl

/-- A lookup finds the manager of the entry if and only if the entry has the kind. -/
lemma lookup_eq_ok_iff {keyType : String} {entry : DirectoryEntry} {kind : PrimitiveKind}
    (h : (s.directory id).find? keyType = some entry) :
    (lookup id keyType kind s).1 = .ok entry.manager ↔ kind ∈ entry.primitives := by
  rw [lookup, Action.bind_of_ok (entry_apply h), ← List.contains_iff_mem]
  cases hkind : entry.primitives.contains kind with
  | true =>
    simp only [DirectoryEntry.supports, hkind, if_true, iff_true]
    rfl
  | false =>
    simp only [DirectoryEntry.supports, hkind, Bool.false_eq_true, if_false, iff_false]
    intro hout
    cases hout

/-- A lookup finds an entry with the kind, and counts this, or is refused. -/
lemma lookup_cases (id : RegistryId) (keyType : String) (kind : PrimitiveKind) (s : State) :
    (∃ entry, (s.directory id).find? keyType = some entry
        ∧ lookup id keyType kind s = (.ok entry.manager, s.count (.lookup .found)))
      ∨ ∃ e t, lookup id keyType kind s = (.error (.key e), t) := by
  cases hfound : (s.directory id).find? keyType with
  | none =>
    exact .inr ⟨_, _, Action.bind_of_error (entry_of_none hfound)⟩
  | some entry =>
    rw [lookup, Action.bind_of_ok (entry_apply hfound)]
    cases hkind : entry.supports kind with
    | true => exact .inl ⟨entry, rfl, rfl⟩
    | false => exact .inr ⟨_, _, rfl⟩

end Registry

end Keyring
