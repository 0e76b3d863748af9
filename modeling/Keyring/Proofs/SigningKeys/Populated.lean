/-
# Registries with the manager of signing keys

A registry is populated when the manager of signing keys is registered together with its templates.
From then on the key type has a manager of this class, in the registry and in its copies, whatever
else is registered, restricted or changed.

* `SigningKeys.Populated` says how such a registry comes about.
* `SigningKeys.Serving` is what holds of it; `SigningKeys.Populated.serving` is the induction over
  the way in which the registry came about.
-/
import Keyring.Proofs.Context.Keeping

namespace Keyring.SigningKeys

/-- The manager of signing keys has been registered with its templates, in the registry or in one
that it was copied from.  Registering may go on, and the rest of the state may change. -/
inductive Populated : RegistryId → State → Prop
  | register {id : RegistryId} {s t : State} {manager : Manager} (templates : TemplatesId)
      (newKeyAllowed : Bool) (hthere : id.index < s.registries.next)
      (hcoherent : (s.directory id).Coherent)
      (h : register id templates newKeyAllowed s = (.ok manager, t)) : Populated id t
  | later {id : RegistryId} {s : State} (r : Directory.Request) (h : Populated id s) :
      Populated id (Registry.register id r s).2
  | copied {id : RegistryId} {s : State} (policy? : Option FipsPolicy) (h : Populated id s) :
      Populated ⟨s.registries.next⟩ (Registry.copy id policy? s).2
  | aside {id : RegistryId} {s t : State} (h : Populated id s)
      (hnext : s.registries.next ≤ t.registries.next) (hrow : t.registry id = s.registry id) :
      Populated id t

/-- The registry is there, its directory is coherent, and the key type of signing keys has a manager
of the class that comes with this library. -/
structure Serving (id : RegistryId) (s : State) : Prop where
  registry_lt : id.index < s.registries.next
  coherent : (s.directory id).Coherent
  entry : ∃ entry, (s.directory id).find? Jwt.privateKeyType = some entry
    ∧ entry.implementingClass = .jwtSigner

variable {id : RegistryId} {s t : State}

namespace Serving

/-- The class of an entry tells what its manager is. -/
lemma exists_manager (h : Serving id s) :
    ∃ entry serial policy, (s.directory id).find? Jwt.privateKeyType = some entry
      ∧ entry.manager = .jwtSigner serial policy := by
  obtain ⟨entry, hfound, hclass⟩ := h.entry
  have hsame := (h.coherent.keyed _ _ hfound).2
  rw [hclass] at hsame
  cases hmanager : entry.manager with
  | jwtSigner serial policy => exact ⟨entry, serial, policy, hfound, hmanager⟩
  | external serial m =>
    rw [hmanager] at hsame
    cases hsame

lemma of_row (h : Serving id s) (hnext : s.registries.next ≤ t.registries.next)
    (hrow : t.registry id = s.registry id) : Serving id t := by
  have hdirectory : t.directory id = s.directory id := congrArg Registry.directory hrow
  refine ⟨Nat.lt_of_lt_of_le h.registry_lt hnext, ?_, ?_⟩
  · rw [hdirectory]
    exact h.coherent
  · rw [hdirectory]
    exact h.entry

lemma of_objects (h : Serving id s) (ht : t.objects = s.objects) : Serving id t :=
  h.of_row (Nat.le_of_eq (State.next_eq_of_objects ht).symm) (State.registry_eq_of_objects ht id)

lemma setDirectory (hthere : id.index < s.registries.next) {d : Directory} (hcoherent : d.Coherent)
    (hentry : ∃ entry, d.find? Jwt.privateKeyType = some entry
      ∧ entry.implementingClass = .jwtSigner) : Serving id (s.setDirectory id d) := by
  have hdirectory := State.directory_setDirectory_self hthere d
  refine ⟨?_, ?_, ?_⟩
  · rw [State.next_setDirectory]
    exact hthere
  · rw [hdirectory]
    exact hcoherent
  · rw [hdirectory]
    exact hentry

/-- A registration, refused or not, leaves the key type with a manager of the class. -/
lemma register (h : Serving id s) (r : Directory.Request) :
    Serving id (Registry.register id r s).2 := by
  cases hregister : Directory.register (s.policyOf id) (s.directory id) r with
  | error refusal => exact h.of_objects (Registry.register_of_error hregister).2
  | ok accepted =>
    obtain ⟨acceptance, d⟩ := accepted
    obtain ⟨entry, hfound, hclass⟩ := h.entry
    obtain ⟨entry', hfound', hclass'⟩ := Directory.exists_find?_register hregister hfound
    refine of_objects ?_ (Registry.register_of_ok hregister).2
    exact setDirectory h.registry_lt (h.coherent.register hregister)
      ⟨entry', hfound', hclass'.trans hclass⟩

/-- A copy starts with the directory of the original. -/
lemma copy (h : Serving id s) (policy? : Option FipsPolicy) :
    Serving ⟨s.registries.next⟩ (Registry.copy id policy? s).2 := by
  have hrow : (Registry.copy id policy? s).2.registry ⟨s.registries.next⟩
      = { policy := ⟨s.policies.next⟩, directory := s.directory id } := Table.get_add_next ..
  have hdirectory : (Registry.copy id policy? s).2.directory ⟨s.registries.next⟩
      = s.directory id := by
    rw [State.directory, hrow]
  refine ⟨?_, ?_, ?_⟩
  · exact (Table.next_add s.registries _).symm ▸ Nat.lt_succ_self _
  · rw [hdirectory]
    exact h.coherent
  · rw [hdirectory]
    exact h.entry

end Serving

/-- Registering the manager of signing keys brings an entry of its class, whatever was there. -/
lemma serving_register {templates : TemplatesId} {newKeyAllowed : Bool} {manager : Manager}
    (hthere : id.index < s.registries.next) (hcoherent : (s.directory id).Coherent)
    (h : register id templates newKeyAllowed s = (.ok manager, t)) : Serving id t := by
  obtain ⟨made, u, hmade, hrest⟩ := Action.bind_eq_ok.1 h
  obtain ⟨made', u', hmade', hrest⟩ := Action.bind_eq_ok.1 hrest
  cases hmade
  cases hmade'
  obtain ⟨⟨⟩, v, hregister, hrest⟩ := Action.bind_eq_ok.1 hrest
  obtain ⟨⟨⟩, w, hput, hpure⟩ := Action.bind_eq_ok.1 hrest
  cases hpure
  -- the registration decides; putting the templates leaves the registries alone
  obtain ⟨acceptance, d, haccepted, hobjects⟩ := Registry.register_eq_ok hregister
  have hserving : Serving id v := by
    refine Serving.of_objects (s := State.setDirectory _ id d) ?_ hobjects
    refine Serving.setDirectory (s := { s with managerCount := s.managerCount + 1 }) hthere ?_ ?_
    · exact Directory.Coherent.register hcoherent haccepted
    · obtain ⟨entry, hfound, hclass, -⟩ := Directory.exists_find?_of_register haccepted
      exact ⟨entry, hfound, hclass⟩
  obtain ⟨found, v', hget, hput⟩ := Action.bind_eq_ok.1 hput
  cases hget
  obtain ⟨table, v'', htable, hput⟩ := Action.bind_eq_ok.1 hput
  obtain ⟨-, rfl⟩ := Action.ofKey_eq_ok_iff.1 htable
  cases hput
  exact hserving.of_row (Nat.le_refl _) rfl

lemma Populated.serving (h : Populated id s) : Serving id s := by
  induction h with
  | register templates newKeyAllowed hthere hcoherent h =>
    exact serving_register hthere hcoherent h
  | later r _ ih => exact ih.register r
  | copied policy? _ ih => exact ih.copy policy?
  | aside _ hnext hrow ih => exact ih.of_row hnext hrow

end Keyring.SigningKeys
