/-
# Families of registries under FIPS

Clients make empty registries and copies of registries, register managers, restrict and reset, each
of them any registry at any time.  In every such run a restricted registry holds nothing that does
not conform to FIPS.

* `Family.Puts` says what a call does to the family: one registry gets a directory and a policy, and
  the others stay as they are.  `Family.Does` lists the ways in which calls end, and
  `Family.does_action` says that there is no other.
* `Family.origins` keeps for each registry the registrations that its entries go back to;
  `Directory.Conforms` is what a registry always satisfies, and `Family.wellKept_action` is the step
  from one call to the next.
* `Family.conforms_after_calls`: what holds of a restricted registry, that it stays restricted, and
  that a restriction and a registration of a non-conforming manager never both succeed.
-/
import Keyring.Proofs.Directory.Conforming
import Keyring.Proofs.Registry.Calls
import Keyring.Proofs.Run
import Mathlib.Logic.Function.Basic

namespace Keyring.Registry.Family

open Directory (Request Acceptance Conforms)

/-! ## Calls -/

/-- A call of a client. -/
inductive Call where
  /-- Makes an empty registry under a new policy. -/
  | create (policy : FipsPolicy)
  /-- Makes a registry with the managers of another one, under a policy like the other's. -/
  | copy (source : RegistryId)
  | register (id : RegistryId) (request : Request)
  | restrict (id : RegistryId)
  | reset (id : RegistryId)

namespace Call

/-- What a call does. -/
def action : Call → Action Unit
  | create policy => discard (Registry.create policy)
  | copy source => discard (Registry.copy source)
  | register id r => Registry.register id r
  | restrict id => Registry.restrict id
  | reset id => Registry.reset id

/-- Whether the registry that a call names is there. -/
def Served (s : State) : Call → Prop
  | create _ => True
  | copy id | register id _ | restrict id | reset id => id.index < s.registries.next

/-- The registry that a call makes or is about. -/
def target (s : State) : Call → RegistryId
  | create _ | copy _ => ⟨s.registries.next⟩
  | register id _ | restrict id | reset id => id

end Call

/-- The calls one after the other, each on a registry that is there when it comes. -/
def Served (s : State) (calls : List Call) : Prop :=
  ∀ made ∈ Run.history Call.action s calls, made.call.Served made.before

/-- The registrations that the entries of the registry which a call makes or is about go back to
afterwards.  A copy shares those of its source, and a reset registry has none. -/
def Call.origins (known : RegistryId → List Request) (succeeded : Bool) : Call → List Request
  | create _ => []
  | copy source => known source
  | register id r => if succeeded then known id ++ [r] else known id
  | restrict id => known id
  | reset _ => []

/-- The registrations that the entries of each registry go back to, after one more call. -/
def track (known : RegistryId → List Request) (made : Run.Made Call) : RegistryId → List Request :=
  Function.update known (made.call.target made.before)
    (made.call.origins known made.outcome.isOk)

/-- The registrations that the entries of each registry go back to after a run. -/
def origins (made : List (Run.Made Call)) : RegistryId → List Request :=
  made.foldl track fun _ => []

/-! ## What a call does to the family -/

/-- Every registry has a policy of its own. -/
structure OwnPolicies (s : State) : Prop where
  given : ∀ id : RegistryId, id.index < s.registries.next →
    (s.registry id).policy.index < s.policies.next
  apart : ∀ id other : RegistryId, id.index < s.registries.next →
    other.index < s.registries.next → (s.registry id).policy = (s.registry other).policy →
    id = other

/-- One registry has this directory under this policy afterwards; it may be new.  The others are as
before. -/
structure Puts (s t : State) (id : RegistryId) (d : Directory) (policy : FipsPolicy) : Prop where
  own : OwnPolicies t
  next_le : s.registries.next ≤ t.registries.next
  known : ∀ other : RegistryId, other.index < t.registries.next →
    other.index < s.registries.next ∨ other = id
  directory : t.directory id = d
  policyOf : t.policyOf id = policy
  other : ∀ other : RegistryId, other.index < s.registries.next → other ≠ id →
    t.directory other = s.directory other ∧ t.policyOf other = s.policyOf other

section Puts

variable {s t u : State} {id : RegistryId} {d : Directory} {policy : FipsPolicy}

lemma Puts.of_objects (hobj : u.objects = t.objects) (h : Puts s t id d policy) :
    Puts s u id d policy := by
  have hregistries := State.registries_eq_of_objects hobj
  have hregistry := State.registry_eq_of_objects hobj
  have hdirectory := State.directory_eq_of_objects hobj
  have hpolicies := State.policies_eq_of_objects hobj
  have hpolicyOf : ∀ other, u.policyOf other = t.policyOf other := fun other => by
    rw [State.policyOf, State.policy, hregistry, hpolicies, State.policyOf, State.policy]
  constructor
  · constructor
    · intro other hother
      rw [hregistries] at hother
      rw [hregistry, hpolicies]
      exact h.own.given other hother
    · intro one other hone hother
      rw [hregistries] at hone hother
      rw [hregistry, hregistry]
      exact h.own.apart one other hone hother
  · rw [hregistries]
    exact h.next_le
  · rw [hregistries]
    exact h.known
  · rw [hdirectory, h.directory]
  · rw [hpolicyOf, h.policyOf]
  · intro other hother hne
    rw [hdirectory, hpolicyOf]
    exact h.other other hother hne

/-- A call that changes nothing. -/
lemma puts_self (hown : OwnPolicies s) (id : RegistryId) :
    Puts s s id (s.directory id) (s.policyOf id) where
  own := hown
  next_le := Nat.le_refl _
  known _ := .inl
  directory := rfl
  policyOf := rfl
  other _ _ _ := ⟨rfl, rfl⟩

lemma puts_setDirectory (hown : OwnPolicies s) (hid : id.index < s.registries.next)
    (d : Directory) : Puts s (s.setDirectory id d) id d (s.policyOf id) := by
  have hnext := State.next_setDirectory s id d
  have hpolicy := State.policy_registry_setDirectory s id d
  constructor
  · constructor
    · intro other hlt
      rw [hnext] at hlt
      rw [hpolicy]
      exact hown.given other hlt
    · intro one other hone hlt hsame
      rw [hnext] at hone hlt
      rw [hpolicy, hpolicy] at hsame
      exact hown.apart one other hone hlt hsame
  · exact Nat.le_of_eq hnext.symm
  · intro other hlt
    rw [hnext] at hlt
    exact .inl hlt
  · exact State.directory_setDirectory_self hid d
  · rw [State.policyOf, hpolicy]
    rfl
  · intro other _ hne
    rw [State.directory, State.policyOf, State.registry_setDirectory_of_ne hne]
    exact ⟨rfl, rfl⟩

/-- A policy is changed for its own registry only. -/
lemma puts_setPolicy (hown : OwnPolicies s) (hid : id.index < s.registries.next)
    (policy : FipsPolicy) :
    Puts s (s.setPolicy (s.registry id).policy policy) id (s.directory id) policy where
  own := by
    refine ⟨fun other hlt => ?_, hown.apart⟩
    change (s.registry other).policy.index < (s.policies.set _ policy).next
    rw [Table.next_set]
    exact hown.given other hlt
  next_le := Nat.le_refl _
  known _ := .inl
  directory := rfl
  policyOf := Table.get_set_self _ _ _ (hown.given id hid)
  other other hlt hne := by
    refine ⟨rfl, Table.get_set_of_ne _ _ fun hsame => hne ?_⟩
    exact (hown.apart id other hid hlt (congrArg PolicyId.mk hsame)).symm

/-- A new registry comes with a new policy. -/
lemma puts_new (hown : OwnPolicies s) (d : Directory) (policy : FipsPolicy) :
    Puts s { s with
        policies := s.policies.add policy
        registries := s.registries.add { policy := ⟨s.policies.next⟩, directory := d } }
      ⟨s.registries.next⟩ d policy := by
  generalize ht : { s with
    policies := s.policies.add policy
    registries := s.registries.add { policy := ⟨s.policies.next⟩, directory := d } } = t
  have hnext : t.registries.next = s.registries.next + 1 := by
    rw [← ht, Table.next_add]
  have hpolicies : t.policies.next = s.policies.next + 1 := by
    rw [← ht, Table.next_add]
  have hself : t.registry ⟨s.registries.next⟩
      = { policy := ⟨s.policies.next⟩, directory := d } := by
    rw [← ht]
    exact Table.get_add_next ..
  have hother : ∀ other : RegistryId, other.index < s.registries.next →
      t.registry other = s.registry other := fun other hlt => by
    rw [← ht]
    exact Table.get_add_of_lt _ _ hlt
  have hpolicy : ∀ id : PolicyId, id.index < s.policies.next → t.policy id = s.policy id :=
    fun id hlt => by
    rw [← ht]
    exact Table.get_add_of_lt _ _ hlt
  have hcases : ∀ other : RegistryId, other.index < t.registries.next →
      other.index < s.registries.next ∨ other = ⟨s.registries.next⟩ := fun other hlt => by
    rw [hnext] at hlt
    rcases Nat.lt_succ_iff_lt_or_eq.1 hlt with h | h
    · exact .inl h
    · exact .inr (congrArg RegistryId.mk h)
  constructor
  · constructor
    · intro other hlt
      rw [hpolicies]
      rcases hcases other hlt with h | rfl
      · rw [hother other h]
        exact Nat.lt_succ_of_lt (hown.given other h)
      · rw [hself]
        exact Nat.lt_succ_self _
    · intro one other hone hlt hsame
      rcases hcases one hone with h₁ | rfl <;> rcases hcases other hlt with h₂ | rfl
      · rw [hother one h₁, hother other h₂] at hsame
        exact hown.apart one other h₁ h₂ hsame
      -- the policy of an older registry was given out before
      · rw [hother one h₁, hself] at hsame
        have := hown.given one h₁
        rw [hsame] at this
        exact absurd this (Nat.lt_irrefl _)
      · rw [hself, hother other h₂] at hsame
        have := hown.given other h₂
        rw [← hsame] at this
        exact absurd this (Nat.lt_irrefl _)
      · rfl
  · rw [hnext]
    exact Nat.le_succ _
  · exact hcases
  · rw [State.directory, hself]
  · rw [State.policyOf, hself, ← ht]
    exact Table.get_add_next ..
  · intro other hlt _
    rw [State.directory, State.policyOf, hother other hlt, hpolicy _ (hown.given other hlt)]
    exact ⟨rfl, rfl⟩

end Puts

/-! ## How calls end -/

/-- How a call ends: whether it succeeds, and the directory and the policy of the registry that it
makes or is about. -/
inductive Does (s : State) : Call → Bool → Directory → FipsPolicy → Prop
  | created (policy : FipsPolicy) : Does s (.create policy) true {} policy
  | copied (source : RegistryId) :
      Does s (.copy source) true (s.directory source) (s.policyOf source)
  | registered {id : RegistryId} {r : Request} {acceptance : Acceptance} {d : Directory}
      (accepted : Directory.register (s.policyOf id) (s.directory id) r = .ok (acceptance, d)) :
      Does s (.register id r) true d (s.policyOf id)
  | refused (id : RegistryId) (r : Request) :
      Does s (.register id r) false (s.directory id) (s.policyOf id)
  | restricted {id : RegistryId}
      (ready : (s.policyOf id).restricted = true ∨ (s.directory id).isEmpty = true) :
      Does s (.restrict id) true (s.directory id) (s.policyOf id).restrict
  | populated (id : RegistryId) : Does s (.restrict id) false (s.directory id) (s.policyOf id)
  | emptied (id : RegistryId) : Does s (.reset id) true {} (s.policyOf id)

/-- Every call ends in one of these ways. -/
lemma does_action {s : State} {c : Call} (hown : OwnPolicies s) (hserved : c.Served s) :
    ∃ ok d policy, (c.action s).1.isOk = ok ∧ Does s c ok d policy
      ∧ Puts s (c.action s).2 (c.target s) d policy := by
  cases c with
  | create policy =>
    rw [Call.action, Action.discard_apply]
    exact ⟨true, {}, policy, rfl, .created policy, puts_new hown {} policy⟩
  | copy source =>
    rw [Call.action, Action.discard_apply]
    exact ⟨true, _, _, rfl, .copied source, puts_new hown (s.directory source) (s.policyOf source)⟩
  | register id r =>
    cases hregister : Directory.register (s.policyOf id) (s.directory id) r with
    | error refusal =>
      obtain ⟨hout, hobj⟩ := register_of_error hregister
      rw [Call.action, hout]
      exact ⟨false, _, _, rfl, .refused id r, (puts_self hown id).of_objects hobj⟩
    | ok accepted =>
      obtain ⟨acceptance, d⟩ := accepted
      obtain ⟨hout, hobj⟩ := register_of_ok hregister
      rw [Call.action, hout]
      exact ⟨true, _, _, rfl, .registered hregister,
        (puts_setDirectory hown hserved d).of_objects hobj⟩
  | restrict id =>
    rw [Call.action]
    rcases restrict_cases id s with ⟨hready, h⟩ | ⟨-, hempty, hout, hobj⟩ | ⟨-, -, h⟩
    · rw [h]
      refine ⟨true, _, _, rfl, .restricted (.inl hready), ?_⟩
      rw [FipsPolicy.restrict_of_restricted hready]
      exact puts_self hown id
    · rw [hout]
      exact ⟨true, _, _, rfl, .restricted (.inr hempty),
        (puts_setPolicy hown hserved _).of_objects hobj⟩
    · rw [h]
      exact ⟨false, _, _, rfl, .populated id, puts_self hown id⟩
  | reset id => exact ⟨true, {}, _, rfl, .emptied id, puts_setDirectory hown hserved {}⟩

/-! ## One call -/

/-- Every registry keeps to its policy. -/
structure WellKept (s : State) (known : RegistryId → List Request) : Prop where
  own : OwnPolicies s
  conforms : ∀ id : RegistryId, id.index < s.registries.next →
    Conforms (s.policyOf id) (s.directory id) (known id)

section Step

variable {s : State} {c : Call} {id : RegistryId} {known : RegistryId → List Request}

/-- A call keeps every registry to its policy. -/
lemma wellKept_action (h : WellKept s known) (hserved : c.Served s) :
    WellKept (c.action s).2 (track known (Run.make Call.action c s)) := by
  obtain ⟨ok, d, policy, hok, hdoes, hputs⟩ := does_action h.own hserved
  refine ⟨hputs.own, fun id hid => ?_⟩
  change Conforms _ _ (Function.update known (c.target s) (c.origins known (c.action s).1.isOk) id)
  rw [hok]
  by_cases htarget : id = c.target s
  · subst htarget
    rw [hputs.directory, hputs.policyOf, Function.update_self]
    cases hdoes with
    | created policy => exact Directory.conforms_empty policy
    | copied source => exact h.conforms source hserved
    | @registered id r _ _ accepted => exact (h.conforms id hserved).register accepted
    | refused id r => exact h.conforms id hserved
    | @restricted id ready => exact (h.conforms id hserved).restrict ready
    | populated id => exact h.conforms id hserved
    | emptied id => exact Directory.conforms_empty _
  · have hbefore := (hputs.known id hid).resolve_right htarget
    obtain ⟨hdirectory, hpolicy⟩ := hputs.other id hbefore htarget
    rw [hdirectory, hpolicy, Function.update_of_ne htarget]
    exact h.conforms id hbefore

/-- A restricted registry stays restricted. -/
lemma restricted_action (hown : OwnPolicies s) (hserved : c.Served s)
    (hid : id.index < s.registries.next) (h : (s.policyOf id).restricted = true) :
    ((c.action s).2.policyOf id).restricted = true := by
  obtain ⟨_, d, policy, -, hdoes, hputs⟩ := does_action hown hserved
  by_cases htarget : id = c.target s
  · subst htarget
    rw [hputs.policyOf]
    cases hdoes with
    | created _ => exact absurd hid (Nat.lt_irrefl _)
    | copied _ => exact absurd hid (Nat.lt_irrefl _)
    | restricted _ => rfl
    | registered _ => exact h
    | refused _ _ => exact h
    | populated _ => exact h
    | emptied _ => exact h
  · rw [(hputs.other id hid htarget).2]
    exact h

/-- A registry that is not restricted and not empty stays so until it is reset. -/
lemma populated_action (hown : OwnPolicies s) (hserved : c.Served s)
    (hid : id.index < s.registries.next) (hreset : c ≠ .reset id)
    (h : (s.policyOf id).restricted = false ∧ (s.directory id).isEmpty = false) :
    ((c.action s).2.policyOf id).restricted = false
      ∧ ((c.action s).2.directory id).isEmpty = false := by
  obtain ⟨_, d, policy, -, hdoes, hputs⟩ := does_action hown hserved
  by_cases htarget : id = c.target s
  · subst htarget
    rw [hputs.policyOf, hputs.directory]
    cases hdoes with
    | created _ => exact absurd hid (Nat.lt_irrefl _)
    | copied _ => exact absurd hid (Nat.lt_irrefl _)
    | registered accepted => exact ⟨h.1, Directory.isEmpty_of_register accepted⟩
    | refused _ _ => exact h
    | restricted ready =>
      rcases ready with hready | hready
      · exact nomatch hready.symm.trans h.1
      · exact nomatch hready.symm.trans h.2
    | populated _ => exact h
    | emptied _ => exact absurd rfl hreset
  · obtain ⟨hdirectory, hpolicy⟩ := hputs.other id hid htarget
    rw [hdirectory, hpolicy]
    exact h

lemma declared_of_registered (hown : OwnPolicies s) {r : Request}
    (hserved : (Call.register id r).Served s) (hrestricted : (s.policyOf id).restricted = true)
    (hok : ((Call.register id r).action s).1.isOk = true) :
    r.declared = .requiresCertifiedModule := by
  obtain ⟨ok, d, policy, hends, hdoes, -⟩ := does_action hown hserved
  obtain rfl : ok = true := hends.symm.trans hok
  cases hdoes with
  | registered accepted =>
    exact (Directory.eq_of_allows (Directory.allows_of_register accepted) hrestricted).1

end Step

/-! ## All calls -/

section Run

variable {s : State} {id : RegistryId} {known : RegistryId → List Request} {calls : List Call}

lemma served_nil : Served s [] :=
  List.forall_mem_nil _

lemma served_cons {c : Call} :
    Served s (c :: calls) ↔ c.Served s ∧ Served (c.action s).2 calls :=
  List.forall_mem_cons

lemma served_append {earlier later : List Call} :
    Served s (earlier ++ later)
      ↔ Served s earlier ∧ Served (Run.final Call.action s earlier) later :=
  Run.forall_history_append

/-- A run keeps every registry to its policy. -/
lemma wellKept_final (h : WellKept s known) (hserved : Served s calls) :
    WellKept (Run.final Call.action s calls)
      ((Run.history Call.action s calls).foldl track known) := by
  induction calls generalizing s known with
  | nil => exact h
  | cons c calls ih =>
    obtain ⟨hc, hcalls⟩ := served_cons.1 hserved
    exact ih (wellKept_action h hc) hcalls

/-- What the calls of a run keep of a registry is kept by the run. -/
lemma final_rec {P : State → Prop} (hown : OwnPolicies s) (hserved : Served s calls)
    (hid : id.index < s.registries.next) (h : P s)
    (step : ∀ c ∈ calls, ∀ t, OwnPolicies t → c.Served t → id.index < t.registries.next → P t →
      P (c.action t).2) :
    OwnPolicies (Run.final Call.action s calls)
      ∧ id.index < (Run.final Call.action s calls).registries.next
      ∧ P (Run.final Call.action s calls) := by
  induction calls generalizing s with
  | nil => exact ⟨hown, hid, h⟩
  | cons c calls ih =>
    obtain ⟨hc, hcalls⟩ := served_cons.1 hserved
    obtain ⟨_, _, _, -, -, hputs⟩ := does_action hown hc
    exact ih hputs.own hcalls (Nat.lt_of_lt_of_le hid hputs.next_le)
      (step c List.mem_cons_self s hown hc hid h)
      fun c' hc' => step c' (List.mem_cons_of_mem c hc')

/-- A registry that is restricted stays restricted. -/
lemma restricted_final (hown : OwnPolicies s) (hserved : Served s calls)
    (hid : id.index < s.registries.next) (h : (s.policyOf id).restricted = true) :
    OwnPolicies (Run.final Call.action s calls)
      ∧ id.index < (Run.final Call.action s calls).registries.next
      ∧ ((Run.final Call.action s calls).policyOf id).restricted = true :=
  final_rec (P := fun t => (t.policyOf id).restricted = true) hown hserved hid h
    fun _ _ _ hown hc hid h => restricted_action hown hc hid h

/-- A registry that is restricted accepts only what conforms. -/
lemma declared_of_mem_history (hown : OwnPolicies s) (hserved : Served s calls)
    (hid : id.index < s.registries.next) (h : (s.policyOf id).restricted = true)
    {made : Run.Made Call} (hmade : made ∈ Run.history Call.action s calls) {r : Request}
    (hcall : made.call = .register id r) (hok : made.outcome.isOk = true) :
    r.declared = .requiresCertifiedModule := by
  obtain ⟨earlier, c, later, rfl, rfl⟩ := Run.exists_of_mem_history hmade
  obtain rfl : c = .register id r := hcall
  obtain ⟨hearlier, hlater⟩ := served_append.1 hserved
  obtain ⟨hown, -, hrestricted⟩ := restricted_final hown hearlier hid h
  exact declared_of_registered hown (served_cons.1 hlater).1 hrestricted hok

/-- A registry that is populated and not restricted refuses the restriction until it is reset. -/
lemma not_restricted_of_mem_history (hown : OwnPolicies s) (hserved : Served s calls)
    (hid : id.index < s.registries.next) (hreset : Call.reset id ∉ calls)
    (h : (s.policyOf id).restricted = false ∧ (s.directory id).isEmpty = false)
    {made : Run.Made Call} (hmade : made ∈ Run.history Call.action s calls)
    (hcall : made.call = .restrict id) : made.outcome.isOk = false := by
  obtain ⟨earlier, c, later, rfl, rfl⟩ := Run.exists_of_mem_history hmade
  obtain rfl : c = .restrict id := hcall
  obtain ⟨hearlier, hlater⟩ := served_append.1 hserved
  obtain ⟨hown, -, hrestricted, hempty⟩ := final_rec
    (P := fun t => (t.policyOf id).restricted = false ∧ (t.directory id).isEmpty = false)
    hown hearlier hid h fun c hc t hown hserved hid h =>
      populated_action hown hserved hid (fun heq => hreset (heq ▸ List.mem_append_left _ hc)) h
  obtain ⟨ok, _, _, hok, hdoes, -⟩ := does_action hown (served_cons.1 hlater).1
  cases hdoes with
  | populated _ => exact hok
  | restricted ready =>
    rcases ready with hready | hready
    · exact nomatch hready.symm.trans hrestricted
    · exact nomatch hready.symm.trans hempty

/-- A restriction and a registration that does not conform never both succeed without a reset. -/
lemma not_both (hown : OwnPolicies s) (hserved : Served s calls)
    (hid : id.index < s.registries.next) (hreset : Call.reset id ∉ calls)
    {restriction registration : Run.Made Call} {r : Request}
    (hmem₁ : restriction ∈ Run.history Call.action s calls)
    (hcall₁ : restriction.call = .restrict id) (hok₁ : restriction.outcome.isOk = true)
    (hmem₂ : registration ∈ Run.history Call.action s calls)
    (hcall₂ : registration.call = .register id r) (hok₂ : registration.outcome.isOk = true) :
    r.declared = .requiresCertifiedModule := by
  -- whichever of the two comes first decides about the other one
  induction calls generalizing s with
  | nil => cases hmem₁
  | cons c calls ih =>
    obtain ⟨hc, hcalls⟩ := served_cons.1 hserved
    obtain ⟨ok, _, _, hok, hdoes, hputs⟩ := does_action hown hc
    have hid' := Nat.lt_of_lt_of_le hid hputs.next_le
    have hreset' : Call.reset id ∉ calls := fun h => hreset (List.mem_cons_of_mem c h)
    rw [Run.history, List.mem_cons] at hmem₁ hmem₂
    rcases hmem₁ with rfl | hmem₁
    · obtain rfl : c = .restrict id := hcall₁
      obtain rfl : ok = true := hok.symm.trans hok₁
      rcases hmem₂ with rfl | hmem₂
      · cases hcall₂
      · refine declared_of_mem_history hputs.own hcalls hid' ?_ hmem₂ hcall₂ hok₂
        cases hdoes
        exact congrArg FipsPolicy.restricted hputs.policyOf
    · rcases hmem₂ with rfl | hmem₂
      · obtain rfl : c = .register id r := hcall₂
        obtain rfl : ok = true := hok.symm.trans hok₂
        cases hdoes with
        | registered accepted =>
          cases hrestricted : (s.policyOf id).restricted with
          | true =>
            exact (Directory.eq_of_allows (Directory.allows_of_register accepted) hrestricted).1
          | false =>
            have := not_restricted_of_mem_history hputs.own hcalls hid' hreset'
              ⟨hputs.policyOf.symm ▸ hrestricted,
                hputs.directory.symm ▸ Directory.isEmpty_of_register accepted⟩ hmem₁ hcall₁
            rw [hok₁] at this
            cases this
      · exact ih hputs.own hcalls hid' hreset' hmem₁ hmem₂

/-- Clients start without registries and call in any order.  Then at any time

* all that the entries of a registry hold goes back to registrations that succeeded, and where the
  registry is restricted, its certified module is available or it is empty, and each of these
  registrations declared that it requires a certified module;
* a registry that was restricted is restricted still;
* in a stretch without a reset of a registry, a restriction of it and a registration in it that does
  not conform to FIPS do not both succeed. -/
theorem conforms_after_calls (hnone : s.registries.next = 0) (hserved : Served s calls) :
    (∀ id : RegistryId, id.index < (Run.final Call.action s calls).registries.next →
        ((Run.final Call.action s calls).directory id).Reflects
            (origins (Run.history Call.action s calls) id)
          ∧ (((Run.final Call.action s calls).policyOf id).restricted = true →
            (((Run.final Call.action s calls).policyOf id).moduleAvailable = true
                ∨ ((Run.final Call.action s calls).directory id).isEmpty = true)
              ∧ ∀ r ∈ origins (Run.history Call.action s calls) id,
                  r.declared = .requiresCertifiedModule))
      ∧ (∀ earlier later, calls = earlier ++ later → ∀ id : RegistryId,
          id.index < (Run.final Call.action s earlier).registries.next →
          ((Run.final Call.action s earlier).policyOf id).restricted = true →
          ((Run.final Call.action s calls).policyOf id).restricted = true)
      ∧ ∀ earlier later, calls = earlier ++ later → ∀ id : RegistryId,
          id.index < (Run.final Call.action s earlier).registries.next →
          Call.reset id ∉ later →
          ¬ ((∃ made ∈ Run.history Call.action (Run.final Call.action s earlier) later,
                made.call = .restrict id ∧ made.outcome.isOk = true)
              ∧ ∃ made ∈ Run.history Call.action (Run.final Call.action s earlier) later,
                ∃ r, made.call = .register id r ∧ r.declared = .notFips
                  ∧ made.outcome.isOk = true) := by
  have hstart : WellKept s fun _ => [] := by
    refine ⟨⟨fun id hid => ?_, fun id _ hid => ?_⟩, fun id hid => ?_⟩ <;>
      · rw [hnone] at hid
        cases hid
  refine ⟨fun id hid => ?_, ?_, ?_⟩
  · have hconforms := (wellKept_final hstart hserved).conforms id hid
    exact ⟨hconforms.reflects, fun h => ⟨hconforms.available h, hconforms.declared h⟩⟩
  · rintro earlier later rfl id hid h
    obtain ⟨hearlier, hlater⟩ := served_append.1 hserved
    rw [Run.final_append]
    exact (restricted_final (wellKept_final hstart hearlier).own hlater hid h).2.2
  · rintro earlier later rfl id hid hreset ⟨⟨m₁, hm₁, hcall₁, hok₁⟩, m₂, hm₂, r, hcall₂, hnot, hok₂⟩
    obtain ⟨hearlier, hlater⟩ := served_append.1 hserved
    have := not_both (wellKept_final hstart hearlier).own hlater hid hreset hm₁ hcall₁ hok₁ hm₂
      hcall₂ hok₂
    rw [hnot] at this
    cases this

end Run

/-- A registration that conforms to FIPS. -/
def conforming : Request where
  manager := .jwtSigner 0 ⟨0⟩
  declared := .requiresCertifiedModule

/-- Two clients: one fills a restricted registry and resets it later, the other works on a copy from
before the reset, where a registration that does not conform is refused. -/
def twoClients : List Call :=
  [.create { moduleAvailable := true }, .restrict ⟨0⟩, .register ⟨0⟩ conforming, .copy ⟨0⟩,
    .reset ⟨0⟩, .register ⟨1⟩ { manager := .jwtSigner 1 ⟨1⟩ }]

/-- The copy is restricted, and its entry goes back to the registration that conforms. -/
theorem conforms_after_twoClients :
    ({} : State).registries.next = 0 ∧ Served {} twoClients
      ∧ ((Run.final Call.action {} twoClients).directory ⟨1⟩).Reflects [conforming]
      ∧ ((Run.final Call.action {} twoClients).policyOf ⟨1⟩).restricted = true
      ∧ ∀ r ∈ [conforming], r.declared = .requiresCertifiedModule := by
  have hserved : Served {} twoClients := by
    refine served_cons.2 ⟨trivial, served_cons.2 ⟨?_, served_cons.2 ⟨?_, served_cons.2 ⟨?_,
      served_cons.2 ⟨?_, served_cons.2 ⟨?_, served_nil⟩⟩⟩⟩⟩⟩
    · exact Nat.zero_lt_one
    · exact Nat.zero_lt_one
    · exact Nat.zero_lt_one
    · exact Nat.zero_lt_two
    · exact Nat.one_lt_two
  have horigins : origins (Run.history Call.action {} twoClients) ⟨1⟩ = [conforming] := rfl
  have hcopied : (Run.final Call.action {} (twoClients.take 4)).registries.next = 2 := rfl
  have hnext : (Run.final Call.action {} twoClients).registries.next = 2 := rfl
  obtain ⟨hconforms, hrestricted, -⟩ := conforms_after_calls rfl hserved
  obtain ⟨hreflects, hdeclared⟩ := hconforms ⟨1⟩ (hnext ▸ Nat.one_lt_two)
  -- the restriction was there when the copy was made
  have hcopy := hrestricted (twoClients.take 4) (twoClients.drop 4) rfl ⟨1⟩
    (hcopied ▸ Nat.one_lt_two) rfl
  rw [horigins] at hreflects hdeclared
  exact ⟨rfl, hserved, hreflects, hcopy, (hdeclared hcopy).2⟩

end Keyring.Registry.Family
