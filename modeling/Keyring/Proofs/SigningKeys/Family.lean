/-
# Sizes of signing keys in families of registries

A restricted registry is under one policy, and the manager that it holds may see another one: a copy
shares the managers of its original, and a registration that is repeated keeps the first of them.
Still a restricted registry never gives out a manager that sees an unrestricted policy.

* `Family.Follows` says so of one manager, `Family.Guards` of a directory and `Family.Guarded` of a
  whole state.
* `Family.Tended` is said of two states, one before and one after: the registries are guarded, and
  what was restricted is so still.  `Family.tended_action` is the step from one call to the next.
* `Family.sizes_of_restricted`: what is looked up in a restricted registry keeps to the sizes that
  are left under FIPS, from then on and whatever is called.
-/
import Keyring.Proofs.Manager.FipsSizes
import Keyring.Proofs.Registry.Family
import Keyring.Proofs.SigningKeys.Creation

namespace Keyring.SigningKeys.Family

open Keyring.Action (Keeps)
open Limits (FipsSize)
open Registry.Family (OwnPolicies Puts puts_setDirectory puts_setPolicy puts_new)

/-! ## Calls -/

/-- A call of a client, or a change of the host. -/
inductive Call where
  /-- Makes an empty registry under a new policy. -/
  | create (policy : FipsPolicy)
  /-- Makes a registry with the managers of another one, under a policy like the other's. -/
  | copy (source : RegistryId)
  /-- Registers a new manager of signing keys with its templates. -/
  | populate (id : RegistryId) (templates : TemplatesId) (newKeyAllowed : Bool)
  | restrict (id : RegistryId)
  | reset (id : RegistryId)
  /-- Makes a context with a policy and a registry of its own. -/
  | createContext (settings : Settings) (fill : Bool)
  | bootstrap (id : ContextId)
  | revise (id : ContextId) (revision : Context.Revision)
  | changeHost (host : Host)

namespace Call

/-- What a call does. -/
def action : Call → Action Unit
  | create policy => discard (Registry.create policy)
  | copy source => discard (Registry.copy source)
  | populate id templates newKeyAllowed => discard (register id templates newKeyAllowed)
  | restrict id => Registry.restrict id
  | reset id => Registry.reset id
  | createContext settings fill => discard (Context.create settings fill)
  | bootstrap id => Context.bootstrap id
  | revise id revision => discard (revision.action id)
  | changeHost host => modify fun s => { s with host }

/-- Whether the registry or the context that a call names is there. -/
def Served (s : State) : Call → Prop
  | create _ | createContext _ _ | changeHost _ => True
  | copy id | populate id _ _ | restrict id | reset id => id.index < s.registries.next
  | bootstrap id | revise id _ => id.index < s.contexts.next

instance (s : State) (c : Call) : Decidable (c.Served s) :=
  match c with
  | create _ | createContext _ _ | changeHost _ => .isTrue trivial
  | copy id | populate id _ _ | restrict id | reset id =>
    inferInstanceAs (Decidable (id.index < s.registries.next))
  | bootstrap id | revise id _ => inferInstanceAs (Decidable (id.index < s.contexts.next))

end Call

/-- The calls one after the other, each on what is there when it comes. -/
def Served (s : State) (calls : List Call) : Prop :=
  ∀ made ∈ Run.history Call.action s calls, made.call.Served made.before

instance (s : State) (calls : List Call) : Decidable (Served s calls) :=
  inferInstanceAs (Decidable (∀ made ∈ _, _))

/-! ## Guarded registries -/

/-- The manager is of signing keys, and where the policy is restricted, so is the one that the
manager sees. -/
def Follows (s : State) (policy : FipsPolicy) (m : Manager) : Prop :=
  ∃ serial seen, m = .jwtSigner serial seen
    ∧ (policy.restricted = true → (s.policy seen).restricted = true)

/-- All managers in a directory follow the policy. -/
def Guards (s : State) (policy : FipsPolicy) (d : Directory) : Prop :=
  ∀ keyType entry, d.find? keyType = some entry → Follows s policy entry.manager

section Guards

variable {s t : State} {policy policy' : FipsPolicy} {d d' : Directory}

lemma guards_of_isEmpty (h : d.isEmpty = true) : Guards s policy d := by
  intro keyType entry hfound
  rw [Directory.find?_of_isEmpty h] at hfound
  cases hfound

lemma Guards.mono (h : Guards s policy d)
    (hseen : ∀ seen, (s.policy seen).restricted = true → (t.policy seen).restricted = true)
    (hpolicy : policy'.restricted = true → policy.restricted = true) : Guards t policy' d := by
  intro keyType entry hfound
  obtain ⟨serial, seen, hmanager, hguarded⟩ := h keyType entry hfound
  exact ⟨serial, seen, hmanager, fun hrestricted => hseen seen (hguarded (hpolicy hrestricted))⟩

/-- The manager that is registered and the one that may stay in its place both follow the policy. -/
lemma Guards.register {r : Directory.Request} {acceptance : Directory.Acceptance}
    (h : Guards s policy d) (haccepted : Directory.register policy d r = .ok (acceptance, d'))
    (hr : Follows s policy r.manager) : Guards s policy d' := by
  intro keyType entry hfound
  rcases Directory.manager_of_register haccepted hfound with hmanager | ⟨before, hbefore, hmanager⟩
  · rw [hmanager]
    exact hr
  · rw [hmanager]
    exact h keyType before hbefore

end Guards

/-- Every registry has a policy of its own and is guarded under it, and the registry of every
context is there. -/
structure Guarded (s : State) : Prop where
  own : OwnPolicies s
  registry_lt : ∀ id : ContextId, id.index < s.contexts.next →
    (s.context id).registry.index < s.registries.next
  guards : ∀ id : RegistryId, id.index < s.registries.next →
    Guards s (s.policyOf id) (s.directory id)

/-- The registries of a state are guarded in a later state; all that was there is there still, and
what was restricted is restricted still. -/
structure Tended (s t : State) : Prop where
  guarded : Guarded t
  registries_le : s.registries.next ≤ t.registries.next
  contexts_le : s.contexts.next ≤ t.contexts.next
  policy : ∀ id : PolicyId, (s.policy id).restricted = true → (t.policy id).restricted = true
  policyOf : ∀ id : RegistryId, id.index < s.registries.next →
    (s.policyOf id).restricted = true → (t.policyOf id).restricted = true

namespace Tended

variable {s t u : State}

lemma refl (hs : Guarded s) : Tended s s :=
  ⟨hs, Nat.le_refl _, Nat.le_refl _, fun _ => id, fun _ _ => id⟩

lemma trans (h : Tended s t) (h' : Tended t u) : Tended s u where
  guarded := h'.guarded
  registries_le := h.registries_le.trans h'.registries_le
  contexts_le := h.contexts_le.trans h'.contexts_le
  policy id hrestricted := h'.policy id (h.policy id hrestricted)
  policyOf id hid hrestricted :=
    h'.policyOf id (hid.trans_le h.registries_le) (h.policyOf id hid hrestricted)

/-- What the tables of registries, policies and contexts hold decides. -/
lemma congr (h : Tended s t) (hregistries : u.registries = t.registries)
    (hpolicies : u.policies = t.policies) (hcontexts : u.contexts = t.contexts) : Tended s u := by
  have hregistry : ∀ id, u.registry id = t.registry id := fun id => by
    rw [State.registry, hregistries, State.registry]
  have hpolicy : ∀ id, u.policy id = t.policy id := fun id => by
    rw [State.policy, hpolicies, State.policy]
  have hdirectory : ∀ id, u.directory id = t.directory id := fun id => by
    rw [State.directory, hregistry, State.directory]
  have hpolicyOf : ∀ id, u.policyOf id = t.policyOf id := fun id => by
    rw [State.policyOf, hregistry, hpolicy, State.policyOf]
  constructor
  · constructor
    · constructor
      · intro id
        rw [hregistries, hregistry, hpolicies]
        exact h.guarded.own.given id
      · intro id other
        rw [hregistries, hregistry, hregistry]
        exact h.guarded.own.apart id other
    · intro id
      rw [hcontexts, hregistries, State.context_eq_of_contexts hcontexts]
      exact h.guarded.registry_lt id
    · intro id hid
      rw [hregistries] at hid
      rw [hdirectory, hpolicyOf]
      refine (h.guarded.guards id hid).mono (fun seen hseen => ?_) fun hrestricted => hrestricted
      rwa [hpolicy]
  · rw [hregistries]
    exact h.registries_le
  · rw [hcontexts]
    exact h.contexts_le
  · intro id
    rw [hpolicy]
    exact h.policy id
  · intro id
    rw [hpolicyOf]
    exact h.policyOf id

lemma of_objects (h : Tended s t) (hu : u.objects = t.objects) : Tended s u :=
  h.congr (State.registries_eq_of_objects hu) (State.policies_eq_of_objects hu)
    (State.contexts_eq_of_objects hu)

/-- What is done to a registry that is there is done in every later state. -/
lemma keeps_of_registry {α : Type} {x : Action α} {id : RegistryId}
    (h : ∀ t : State, Guarded t → id.index < t.registries.next → Tended t (x t).2)
    (hid : id.index < s.registries.next) : Keeps (Tended s) x :=
  fun t ht => ht.trans (h t ht.guarded (hid.trans_le ht.registries_le))

end Tended

/-! ## What is done to one registry -/

section Steps

variable {s t : State} {id : RegistryId} {d : Directory} {policy : FipsPolicy}

/-- One registry gets a directory that is guarded, under a policy that is restricted if its policy
was before. -/
lemma tended_of_puts (hs : Guarded s) (hputs : Puts s t id d policy)
    (hcontexts : t.contexts = s.contexts)
    (hpolicies : ∀ seen, (s.policy seen).restricted = true → (t.policy seen).restricted = true)
    (hkept : id.index < s.registries.next → (s.policyOf id).restricted = true →
      policy.restricted = true)
    (hguards : Guards t policy d) : Tended s t := by
  constructor
  · constructor
    · exact hputs.own
    · intro other hother
      rw [hcontexts] at hother
      rw [State.context_eq_of_contexts hcontexts]
      exact (hs.registry_lt other hother).trans_le hputs.next_le
    · intro other hother
      by_cases heq : other = id
      · subst heq
        rw [hputs.directory, hputs.policyOf]
        exact hguards
      · have hbefore := (hputs.known other hother).resolve_right heq
        obtain ⟨hdirectory, hpolicyOf⟩ := hputs.other other hbefore heq
        rw [hdirectory, hpolicyOf]
        exact (hs.guards other hbefore).mono hpolicies fun hrestricted => hrestricted
  · exact hputs.next_le
  · rw [hcontexts]
  · exact hpolicies
  · intro other hother hrestricted
    by_cases heq : other = id
    · subst heq
      rw [hputs.policyOf]
      exact hkept hother hrestricted
    · rw [(hputs.other other hother heq).2]
      exact hrestricted

lemma tended_setDirectory (hs : Guarded s) (hid : id.index < s.registries.next)
    (hguards : Guards s (s.policyOf id) d) : Tended s (s.setDirectory id d) :=
  tended_of_puts hs (puts_setDirectory hs.own hid d) rfl (fun _ h => h) (fun _ h => h) hguards

/-- A manager that follows the policy of the registry is registered in it. -/
lemma tended_register (hs : Guarded s) (hid : id.index < s.registries.next) {r : Directory.Request}
    (hr : Follows s (s.policyOf id) r.manager) : Tended s (Registry.register id r s).2 := by
  cases hregister : Directory.register (s.policyOf id) (s.directory id) r with
  | error refusal => exact (Tended.refl hs).of_objects (Registry.register_of_error hregister).2
  | ok accepted =>
    obtain ⟨acceptance, d⟩ := accepted
    have hguards := (hs.guards id hid).register hregister hr
    exact (tended_setDirectory hs hid hguards).of_objects (Registry.register_of_ok hregister).2

/-- Only an empty registry is restricted, and no other registry is under its policy. -/
lemma tended_restrict (hs : Guarded s) (hid : id.index < s.registries.next) :
    Tended s (Registry.restrict id s).2 := by
  rcases Registry.restrict_cases id s with ⟨-, h⟩ | ⟨-, hempty, -, hobjects⟩ | ⟨-, -, h⟩
  · rw [h]
    exact Tended.refl hs
  · have hputs := puts_setPolicy hs.own hid (s.policyOf id).restrict
    refine (tended_of_puts hs hputs rfl (fun seen hseen => ?_) (fun _ _ => rfl)
      (guards_of_isEmpty hempty)).of_objects hobjects
    by_cases heq : (s.registry id).policy = seen
    · subst heq
      have hself : (s.setPolicy (s.registry id).policy (s.policyOf id).restrict).policy
          (s.registry id).policy = (s.policyOf id).restrict :=
        Table.get_set_self _ _ _ (hs.own.given id hid)
      rw [hself]
      rfl
    · have hother : (s.setPolicy (s.registry id).policy (s.policyOf id).restrict).policy seen
          = s.policy seen :=
        Table.get_set_of_ne _ _ fun hindex => heq (congrArg PolicyId.mk hindex)
      rwa [hother]
  · rw [h]
    exact Tended.refl hs

/-- The new manager sees the policy that the registry is under. -/
lemma tended_populate (hs : Guarded s) (hid : id.index < s.registries.next)
    (templates : TemplatesId) (newKeyAllowed : Bool) :
    Tended s (register id templates newKeyAllowed s).2 := by
  have hcounted : Tended s { s with managerCount := s.managerCount + 1 } :=
    (Tended.refl hs).congr rfl rfl rfl
  refine Context.signingKeys_keeps (fun _ _ ht => ht.congr rfl rfl rfl) ?_ templates
  exact hcounted.trans (tended_register hcounted.guarded hid ⟨_, _, rfl, fun h => h⟩)

/-- The manager that is registered again is the one that is there. -/
lemma tended_disallowNewKeys (hs : Guarded s) (hid : id.index < s.registries.next)
    (keyType : String) : Tended s (Context.disallowNewKeys id keyType s).2 := by
  cases hfound : (s.directory id).find? keyType with
  | none =>
    have hunknown : Registry.isNewKeyAllowed id keyType s = _ :=
      Action.bind_of_error (Registry.entry_of_none hfound)
    rw [Context.disallowNewKeys, Action.bind_of_error hunknown]
    exact (Tended.refl hs).of_objects rfl
  | some entry =>
    rw [Context.disallowNewKeys_apply hfound]
    cases entry.newKeyAllowed with
    | false => exact Tended.refl hs
    | true =>
      have hregistered : Tended s (Registry.register id (Directory.disallowing entry) s).2 :=
        tended_register hs hid (hs.guards id hid keyType entry hfound)
      exact Keeps.apply_bind hregistered fun _ t ht => ht.of_objects rfl

/-- A new registry is guarded if its directory is. -/
lemma tended_new (hs : Guarded s) (d : Directory) (policy : FipsPolicy)
    (hguards : Guards s policy d) :
    Tended s { s with
      policies := s.policies.add policy
      registries := s.registries.add { policy := ⟨s.policies.next⟩, directory := d } } := by
  have hpolicies : ∀ seen : PolicyId, (s.policy seen).restricted = true →
      ((s.policies.add policy).get seen.index).restricted = true := fun seen hseen => by
    have hgiven : seen.index < s.policies.next := by
      -- a number that was not given out stands for a policy that is not restricted
      refine Nat.lt_of_not_le fun hle => ?_
      have hdefault : s.policy seen = default := Table.get_of_next_le _ hle
      rw [hdefault] at hseen
      cases hseen
    rw [Table.get_add_of_lt _ _ hgiven]
    exact hseen
  exact tended_of_puts hs (puts_new hs.own d policy) rfl hpolicies
    (fun hlt => absurd hlt (Nat.lt_irrefl _)) (hguards.mono hpolicies fun h => h)

end Steps

/-! ## What is done to contexts -/

section Contexts

variable {s : State} {id : ContextId}

/-- A context comes with an empty registry. -/
lemma tended_made (hs : Guarded s) (settings : Settings) : Tended s (Context.made settings s) := by
  have hnew := tended_new hs {} { moduleAvailable := settings.fipsModuleAvailable }
    (guards_of_isEmpty rfl)
  have hnext : (Context.made settings s).registries.next = s.registries.next + 1 :=
    Table.next_add ..
  have hcontexts : (Context.made settings s).contexts.next = s.contexts.next + 1 :=
    Table.next_add ..
  refine ⟨⟨⟨hnew.guarded.own.given, hnew.guarded.own.apart⟩, fun id hid => ?_, hnew.guarded.guards⟩,
    hnew.registries_le, ?_, hnew.policy, hnew.policyOf⟩
  · rw [hcontexts] at hid
    rw [hnext]
    rcases Nat.lt_succ_iff_lt_or_eq.1 hid with hlt | heq
    · have hsame : (Context.made settings s).context id = s.context id :=
        Table.get_add_of_lt _ _ hlt
      rw [hsame]
      exact Nat.lt_succ_of_lt (hs.registry_lt id hlt)
    · obtain rfl : id = ⟨s.contexts.next⟩ := congrArg ContextId.mk heq
      have hself : ((Context.made settings s).context ⟨s.contexts.next⟩).registry
          = ⟨s.registries.next⟩ := congrArg Context.registry (Table.get_add_next ..)
      rw [hself]
      exact Nat.lt_succ_self _
  · rw [hcontexts]
    exact Nat.le_succ _

lemma tended_bootstrap (hs : Guarded s) (hid : id.index < s.contexts.next) :
    Tended s (Context.bootstrap id s).2 := by
  have hregistry := hs.registry_lt id hid
  refine Context.bootstrap_keeps Tended.of_objects ?_ (fun newKeyAllowed => ?_) (Tended.refl hs)
  · exact Tended.keeps_of_registry (fun _ => tended_restrict) hregistry
  · exact Tended.keeps_of_registry
      (fun _ ht hlt => tended_populate ht hlt (s.context id).templates newKeyAllowed) hregistry

lemma tended_createContext (hs : Guarded s) (settings : Settings) (fill : Bool) :
    Tended s (Context.create settings fill s).2 := by
  have hmade := tended_made hs settings
  rw [Context.create_apply]
  refine Keeps.apply_bind ?_ fun _ => .pure _
  cases fill with
  | false => exact hmade
  | true =>
    refine hmade.trans (tended_bootstrap hmade.guarded ?_)
    exact (Table.next_add s.contexts _).symm ▸ Nat.lt_succ_self _

lemma tended_setContextSettings (hs : Guarded s) (id : ContextId) (settings : Settings) :
    Tended s (s.setContextSettings id settings) := by
  have hcontexts : (s.setContextSettings id settings).contexts.next = s.contexts.next :=
    Table.next_set ..
  refine ⟨⟨⟨hs.own.given, hs.own.apart⟩, fun other hother => ?_, hs.guards⟩, Nat.le_refl _,
    Nat.le_of_eq hcontexts.symm, fun _ h => h, fun _ _ h => h⟩
  obtain ⟨_, hcontext⟩ := Context.exists_context_setContextSettings s id settings other
  rw [hcontexts] at hother
  rw [hcontext]
  exact hs.registry_lt other hother

lemma tended_apply (hs : Guarded s) (hid : id.index < s.contexts.next) (settings : Settings) :
    Tended s (Context.apply id settings s).2 := by
  have hregistry := hs.registry_lt id hid
  refine Context.apply_keeps ?_ (fun keyType => ?_) settings (Tended.refl hs)
  · exact Tended.keeps_of_registry (fun _ => tended_restrict) hregistry
  · exact Tended.keeps_of_registry (fun _ ht hlt => tended_disallowNewKeys ht hlt keyType) hregistry

lemma tended_revise (hs : Guarded s) (hid : id.index < s.contexts.next)
    (revision : Context.Revision) : Tended s (revision.action id s).2 := by
  refine revision.keeps (P := Tended s) Tended.of_objects (fun settings ht => ?_)
    (fun settings t ht => ?_) s (Tended.refl hs)
  · exact ht.trans (tended_setContextSettings ht.guarded id settings)
  · exact ht.trans (tended_apply ht.guarded (hid.trans_le ht.contexts_le) settings)

end Contexts

/-! ## Calls in a row -/

variable {s : State} {id : RegistryId} {earlier later : List Call}

/-- Every call leaves the registries guarded and what is restricted restricted. -/
lemma tended_action {c : Call} (hs : Guarded s) (hserved : c.Served s) :
    Tended s (c.action s).2 := by
  cases c with
  | create policy =>
    rw [Call.action, Action.discard_apply]
    exact tended_new hs {} policy (guards_of_isEmpty rfl)
  | copy source =>
    -- the copy shares the managers, and its policy is like that of the original
    rw [Call.action, Action.discard_apply]
    exact tended_new hs (s.directory source) (s.policyOf source) (hs.guards source hserved)
  | populate id templates newKeyAllowed =>
    rw [Call.action, Action.discard_apply]
    exact tended_populate hs hserved templates newKeyAllowed
  | restrict id => exact tended_restrict hs hserved
  | reset id => exact tended_setDirectory hs hserved (guards_of_isEmpty rfl)
  | createContext settings fill =>
    rw [Call.action, Action.discard_apply]
    exact tended_createContext hs settings fill
  | bootstrap id => exact tended_bootstrap hs hserved
  | revise id revision =>
    rw [Call.action, Action.discard_apply]
    exact tended_revise hs hserved revision
  | changeHost host => exact (Tended.refl hs).congr rfl rfl rfl

lemma tended_final (hs : Guarded s) {calls : List Call} (hserved : Served s calls) :
    Tended s (Run.final Call.action s calls) :=
  Run.final_induction_of_history (Q := fun c t => Call.Served t c)
    (fun _ _ hc ht => ht.trans (tended_action ht.guarded hc)) (Tended.refl hs) hserved

/-! ## Sizes -/

section Sizes

variable {t : State} (hs : Guarded s) (hid : id.index < s.registries.next)
  (hrestricted : (s.policyOf id).restricted = true)
include hs hid hrestricted

/-- A manager that was looked up in a restricted registry keeps to the sizes from then on. -/
lemma keepsToFips_of_lookup (ht : Tended s t) {kind : PrimitiveKind} {m : Manager}
    (h : (Registry.lookup id Jwt.privateKeyType kind s).1 = .ok m) : m.KeepsToFips t := by
  rcases Registry.lookup_cases id Jwt.privateKeyType kind s with
    ⟨entry, hfound, hrun⟩ | ⟨e, u, hrun⟩
  · rw [hrun] at h
    obtain ⟨serial, seen, hmanager, hseen⟩ := hs.guards id hid _ entry hfound
    obtain rfl : entry.manager = m := Except.ok.inj h
    rw [hmanager]
    exact Manager.keepsToFips_of_restricted (ht.policy seen (hseen hrestricted)) serial
  · rw [hrun] at h
    cases h

/-- A key that is made through a restricted registry has one of the sizes. -/
lemma fipsSize_of_create {crypto : Rsa.CryptoModule} {template : Jwt.Template}
    {customKid : Option Jwt.OfferedKid} {key : Jwt.PrivateKey}
    (h : create crypto id template customKid s = (.ok key, t)) : FipsSize template.modulusBits := by
  rcases create_cases crypto id template customKid s with
    ⟨-, entry, hfound, -, hmake⟩ | ⟨e, u, hrefused⟩
  · obtain ⟨serial, seen, hmanager, hseen⟩ := hs.guards id hid _ entry hfound
    rw [hmake, hmanager] at h
    obtain ⟨format, pair, given, hformat, hcheck, -⟩ := makeKey_eq_ok_iff.1 h
    obtain ⟨-, hbits, -⟩ := Jwt.Template.toKeyFormat_eq_ok hformat
    rw [← hbits]
    have hpolicy : ((s.count (.lookup .found)).policy seen).restricted = true := hseen hrestricted
    exact (format.check_of_restricted hpolicy).1 hcheck
  · rw [hrefused] at h
    cases h

end Sizes

/-- Clients start without registries and contexts and call in any order, and at some time a registry
is restricted.  It stays so; every manager that is looked up in it at that time keeps to the sizes
that are left under FIPS, however many calls follow; and after them a new signing key that is made
through the registry is of one of these sizes, whatever the engine is. -/
theorem sizes_of_restricted (hregistries : s.registries.next = 0) (hcontexts : s.contexts.next = 0)
    (hserved : Served s (earlier ++ later))
    (hid : id.index < (Run.final Call.action s earlier).registries.next)
    (hrestricted : ((Run.final Call.action s earlier).policyOf id).restricted = true) :
    ((Run.final Call.action s (earlier ++ later)).policyOf id).restricted = true
      ∧ (∀ kind m, (Registry.lookup id Jwt.privateKeyType kind (Run.final Call.action s earlier)).1
          = .ok m → m.KeepsToFips (Run.final Call.action s (earlier ++ later)))
      ∧ ∀ crypto template customKid key t, create crypto id template customKid
          (Run.final Call.action s (earlier ++ later)) = (.ok key, t) →
        FipsSize template.modulusBits := by
  have hstart : Guarded s := by
    refine ⟨⟨fun id hid => ?_, fun id _ hid => ?_⟩, fun id hid => ?_, fun id hid => ?_⟩ <;>
      simp only [hregistries, hcontexts, Nat.not_lt_zero] at hid
  obtain ⟨hearlier, hlater⟩ := Run.forall_history_append.1 hserved
  have hguarded := (tended_final hstart hearlier).guarded
  have htended := tended_final hguarded hlater
  rw [Run.final_append]
  have hstill := htended.policyOf id hid hrestricted
  exact ⟨hstill, fun kind m => keepsToFips_of_lookup hguarded hid hrestricted htended,
    fun crypto template customKid key t => fipsSize_of_create htended.guarded
      (hid.trans_le htended.registries_le) hstill⟩

/-- The registry of a context that is not restricted is copied, and the copy is emptied, restricted
and populated again; then the copy is copied. -/
def copies : List Call :=
  [.createContext { fipsModuleAvailable := true } true, .copy ⟨0⟩, .reset ⟨1⟩, .restrict ⟨1⟩,
    .populate ⟨1⟩ ⟨0⟩ true, .copy ⟨1⟩]

/-- The registry whose policy the manager sees is emptied, and the context changes its settings. -/
def changes : List Call :=
  [.reset ⟨1⟩, .revise ⟨0⟩ (.update [("new_key_allowed", .bool false)])]

/-- The second copy gives out a manager that refuses a format of 2330 bits to the end, and no key of
this size is made through it. -/
theorem sizes_of_restricted_copies :
    ({} : State).registries.next = 0 ∧ ({} : State).contexts.next = 0
      ∧ Served {} (copies ++ changes)
      ∧ 2 < (Run.final Call.action {} copies).registries.next
      ∧ ((Run.final Call.action {} copies).policyOf ⟨2⟩).restricted = true
      ∧ (∃ m e, (Registry.lookup ⟨2⟩ Jwt.privateKeyType .jwtPublicKeySign
            (Run.final Call.action {} copies)).1 = .ok m
          ∧ m.checkFormat (Manager.mersenneFormat 1) (Run.final Call.action {} (copies ++ changes))
            = (.error (.key e), Run.final Call.action {} (copies ++ changes))
          ∧ e.kind = .invalidModulusSize)
      ∧ ∀ crypto customKid key t, create crypto ⟨2⟩ mersenneTemplate customKid
          (Run.final Call.action {} (copies ++ changes)) ≠ (.ok key, t) := by
  have hserved : Served {} (copies ++ changes) := by decide +kernel
  have hthere : 2 < (Run.final Call.action {} copies).registries.next := by decide +kernel
  have hrestricted : ((Run.final Call.action {} copies).policyOf ⟨2⟩).restricted = true := by
    decide +kernel
  have hfound : (Registry.lookup ⟨2⟩ Jwt.privateKeyType .jwtPublicKeySign
      (Run.final Call.action {} copies)).1.isOk = true := by decide +kernel
  obtain ⟨m, hm⟩ := isOk_iff.1 hfound
  obtain ⟨-, hkeeps, hcreate⟩ := sizes_of_restricted rfl rfl hserved hthere hrestricted
  obtain ⟨e, hrefused, hkind⟩ := (hkeeps _ m hm).format (Manager.mersenneFormat 1) (by decide)
  refine ⟨rfl, rfl, hserved, hthere, hrestricted, ⟨m, e, hm, hrefused, hkind⟩, ?_⟩
  intro crypto customKid key t hkey
  exact absurd (hcreate crypto mersenneTemplate customKid key t hkey) (by decide)

end Keyring.SigningKeys.Family
