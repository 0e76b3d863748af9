/-
# No signing keys once they are disallowed

New signing keys are disallowed in a registry.  Short of emptying registries, nothing that clients
can do makes one again, neither through this registry nor through its copies.

* `Session.Disallowed` is the state that the key type of signing keys is in, and
  `Operation.keeps_disallowed` says that every operation keeps it.
* `Session.Stems` follows the copies of a registry, and the copies of these, through a run;
  `Session.disallowed_of_stems` is the induction.
* `Session.refused_once_disallowed`: no key is returned, and none is generated.
-/
import Keyring.Proofs.Registry.Answering
import Keyring.Proofs.SigningKeys.Creation
import Keyring.Proofs.Session.Operations

namespace Keyring

/-- A registration permits new keys for no key type for which they are disallowed. -/
lemma Directory.exists_disallowed_of_register {policy : FipsPolicy} {d d' : Directory} {r : Request}
    {acceptance : Acceptance} (h : register policy d r = .ok (acceptance, d')) {keyType : String}
    {entry : DirectoryEntry} (hfound : d.find? keyType = some entry)
    (hdisallowed : entry.newKeyAllowed = false) :
    ∃ entry', d'.find? keyType = some entry' ∧ entry'.newKeyAllowed = false := by
  have hcases := registers_register policy d r
  rw [h] at hcases
  by_cases hkey : keyType = r.manager.keyType
  · subst hkey
    cases hcases with
    | inserted _ new =>
      rw [hfound] at new
      cases new
    | @refreshed existing _ found _ tightens =>
      obtain rfl : entry = existing := Option.some.inj (hfound.symm.trans found)
      refine ⟨_, find?_insert_self .., ?_⟩
      have hasked : r.newKeyAllowed = false := by
        cases hasked : r.newKeyAllowed with
        | false => rfl
        | true => exact nomatch hdisallowed.symm.trans (tightens hasked)
      -- a new instance comes with the permission that was asked for, and so does the old one
      rw [Request.refreshed]
      split <;> exact hasked
  · refine ⟨entry, ?_, hdisallowed⟩
    cases hcases <;> exact (find?_insert_of_ne hkey ..).trans hfound

namespace Session

open Keyring.Action (Keeps)

variable {id source registry : RegistryId} {s t : State}

/-! ## Registries without new signing keys -/

/-- The key type of signing keys is registered, and new keys are disallowed. -/
def Disallowed (id : RegistryId) (s : State) : Prop :=
  ∃ entry, (s.directory id).find? Jwt.privateKeyType = some entry ∧ entry.newKeyAllowed = false

lemma disallowed_of_answer
    (h : (Registry.isNewKeyAllowed id Jwt.privateKeyType s).1 = .ok false) : Disallowed id s := by
  cases hfound : (s.directory id).find? Jwt.privateKeyType with
  | none =>
    rw [Registry.isNewKeyAllowed, Action.bind_of_error (Registry.entry_of_none hfound)] at h
    cases h
  | some entry =>
    rw [Registry.isNewKeyAllowed, Action.bind_of_ok (Registry.entry_apply hfound)] at h
    exact ⟨entry, hfound, Except.ok.inj h⟩

namespace Disallowed

lemma congr (h : Disallowed id s) (hdirectory : t.directory registry = s.directory id) :
    Disallowed registry t := by
  rwa [Disallowed, hdirectory]

lemma of_registries (h : Disallowed id s) (ht : t.registries = s.registries) : Disallowed id t :=
  h.congr (by rw [State.directory, State.registry, ht]; rfl)

/-- Only a registry that is there has entries. -/
lemma registry_lt (h : Disallowed id s) : id.index < s.registries.next := by
  obtain ⟨entry, hfound, -⟩ := h
  refine Nat.lt_of_not_le fun hle => ?_
  have hdefault : s.registry id = default := Table.get_of_next_le _ hle
  rw [State.directory, hdefault] at hfound
  cases hfound

/-- No registration permits new signing keys again, whatever class and whatever flags it has. -/
lemma register (hs : Disallowed id s) (other : RegistryId) (r : Directory.Request) :
    Disallowed id (Registry.register other r s).2 := by
  cases hregister : Directory.register (s.policyOf other) (s.directory other) r with
  | error refusal =>
    exact hs.of_registries (State.registries_eq_of_objects
      (Registry.register_of_error hregister).2)
  | ok accepted =>
    obtain ⟨acceptance, d⟩ := accepted
    have hset : Disallowed id (s.setDirectory other d) := by
      by_cases heq : id = other
      · subst heq
        rw [Disallowed, State.directory_setDirectory_self hs.registry_lt]
        obtain ⟨entry, hfound, hdisallowed⟩ := hs
        exact Directory.exists_disallowed_of_register hregister hfound hdisallowed
      · exact hs.congr (congrArg Registry.directory (State.registry_setDirectory_of_ne heq d))
    exact hset.of_registries (State.registries_eq_of_objects
      (Registry.register_of_ok hregister).2)

end Disallowed

/-! ## What operations keep -/

namespace Counted

/-- Only registrations change registries. -/
lemma registries_action (c : Counted) (hc : ∀ id r, c ≠ .register id r) (s : State) :
    (c.action s).2.registries = s.registries := by
  cases c with
  | register id r => exact absurd rfl (hc id r)
  | lookup id keyType kind =>
    obtain ⟨t, hrun, ht⟩ := Registry.lookup_answer id keyType kind s
    rw [action, hrun]
    exact State.registries_eq_of_objects ht
  | manager id keyType =>
    obtain ⟨t, hrun, ht⟩ := Registry.entry_answer id keyType s
    rw [action, Registry.manager, Action.bind_pure_apply, hrun]
    exact State.registries_eq_of_objects ht
  | isNewKeyAllowed id keyType =>
    obtain ⟨t, hrun, ht⟩ := Registry.entry_answer id keyType s
    rw [action, Registry.isNewKeyAllowed, Action.bind_pure_apply, hrun]
    exact State.registries_eq_of_objects ht
  | createPrimitive m crypto key =>
    cases m with
    | external serial m => cases key <;> rfl
    | jwtSigner serial policy =>
      cases key with
      | plain b => rfl
      | jwt key =>
        exact State.registries_eq_of_objects
          (Manager.createPrimitive_apply serial policy crypto key s).2
  | createKey m crypto format =>
    cases m with
    | external serial m => rfl
    | jwtSigner serial policy =>
      rw [action, Manager.createKey, Jwt.KeyFormat.makeKey]
      cases format.newKey crypto <;> rfl

lemma keeps_disallowed (c : Counted) : Keeps (Disallowed id) c.action := by
  intro s hs
  by_cases hc : ∃ other r, c = .register other r
  · obtain ⟨other, r, rfl⟩ := hc
    exact hs.register other r
  · exact hs.of_registries (c.registries_action (fun other r h => hc ⟨other, r, h⟩) s)

end Counted

/-- Whatever a client does short of emptying a registry, new signing keys stay disallowed. -/
lemma Operation.keeps_disallowed (o : Operation) : Keeps (Disallowed id) o.action := by
  refine o.keeps (fun c => c.keeps_disallowed) (fun policy d s hs => ?_)
    (fun _ s hs => hs.of_registries rfl) fun hs hspared => hs.of_registries hspared.registries
  exact hs.congr (congrArg Registry.directory (Table.get_add_of_lt _ _ hs.registry_lt))

/-! ## Copies -/

/-- The registry that an operation copies, if it copies one. -/
def Operation.copied? : Operation → Option RegistryId
  | .copy source _ => some source
  | .createUnder _ source? => source?
  | _ => none

/-- A copy starts with the entries of the original. -/
lemma Operation.disallowed_copied {o : Operation} (h : o.copied? = some source)
    (hs : Disallowed source s) : Disallowed ⟨s.registries.next⟩ (o.action s).2 := by
  cases o with
  | copy source' policy? =>
    cases h
    have hrow : ((Operation.copy source policy?).action s).2.registry ⟨s.registries.next⟩
        = { policy := ⟨s.policies.next⟩, directory := s.directory source } := Table.get_add_next ..
    exact hs.congr (by rw [State.directory, hrow])
  | createUnder policy source? =>
    obtain rfl : source? = some source := h
    have hrow : ((Operation.createUnder policy (some source)).action s).2.registry
        ⟨s.registries.next⟩ = { policy, directory := s.directory source } := Table.get_add_next ..
    exact hs.congr (by rw [State.directory, hrow])
  | _ => cases h

/-- The registries that go back to one by copying, after operations in a row. -/
inductive Stems (id : RegistryId) (s : State) : List Operation → RegistryId → Prop
  | self : Stems id s [] id
  | later {operations : List Operation} {registry : RegistryId} (o : Operation)
      (h : Stems id s operations registry) : Stems id s (operations ++ [o]) registry
  | copied {operations : List Operation} {source : RegistryId} {o : Operation}
      (h : Stems id s operations source) (hcopied : o.copied? = some source) :
      Stems id s (operations ++ [o])
        ⟨(Run.final Operation.action s operations).registries.next⟩

lemma disallowed_of_stems {operations : List Operation} (hs : Disallowed id s)
    (h : Stems id s operations registry) :
    Disallowed registry (Run.final Operation.action s operations) := by
  induction h with
  | self => exact hs
  | later o _ ih =>
    rw [Run.final_append]
    exact o.keeps_disallowed _ ih
  | copied _ hcopied ih =>
    rw [Run.final_append]
    exact Operation.disallowed_copied hcopied ih

/-! ## No keys -/

/-- The first call of those that make a signing key. -/
def lookupCall (registry : RegistryId) : Counted :=
  .lookup registry Jwt.privateKeyType .jwtPublicKeySign

/-- The second call. -/
def askCall (registry : RegistryId) : Counted :=
  .isNewKeyAllowed registry Jwt.privateKeyType

/-- A lookup may find a manager, but it is not asked for a key. -/
lemma create_of_disallowed (hs : Disallowed registry s) (template : Jwt.Template)
    (customKid : Option Jwt.OfferedKid) :
    (∃ e t, ∀ crypto,
        SigningKeys.create crypto registry template customKid s = (.error (.key e), t))
      ∧ ∀ crypto, ∀ made ∈ (Script.signingKey crypto registry template customKid).calls s,
        ∀ manager engine format, made.call ≠ .createKey manager engine format := by
  rcases Registry.lookup_cases registry Jwt.privateKeyType .jwtPublicKeySign s with
    ⟨entry, hfound, hlookup⟩ | ⟨e, t, hlookup⟩
  · obtain ⟨entry', hfound', hdisallowed⟩ := hs
    obtain rfl : entry = entry' := Option.some.inj (hfound.symm.trans hfound')
    have hallowed := Registry.isNewKeyAllowed_apply (s := s.count (.lookup .found)) hfound
    rw [hdisallowed] at hallowed
    refine ⟨⟨⟨.newKeysDisallowed Jwt.privateKeyType, some Jwt.privateKeyType⟩,
      s.count (.lookup .found), fun crypto => ?_⟩, fun crypto made hmade => ?_⟩
    · rw [SigningKeys.create, Action.bind_of_ok hlookup, Action.bind_of_ok hallowed]
      rfl
    · have hcalls : (Script.signingKey crypto registry template customKid).calls s
          = [(lookupCall registry).make s]
            ++ ([(askCall registry).make (s.count (.lookup .found))] ++ []) := by
        refine (Script.calls_of_ok (p := .call (lookupCall registry)) hlookup).trans
          (congrArg _ ?_)
        exact Script.calls_of_ok (p := .call (askCall registry)) hallowed
      rw [hcalls, List.append_nil, List.singleton_append, List.mem_cons,
        List.mem_singleton] at hmade
      intro manager engine format hcall
      rcases hmade with rfl | rfl <;> cases hcall
  · refine ⟨⟨e, t, fun crypto => Action.bind_of_error hlookup⟩, fun crypto made hmade => ?_⟩
    have hcalls : (Script.signingKey crypto registry template customKid).calls s
        = [(lookupCall registry).make s] :=
      Script.calls_of_error (p := .call (lookupCall registry)) hlookup
    intro manager engine format hcall
    rw [hcalls, List.mem_singleton] at hmade
    subst hmade
    cases hcall

/-- New signing keys are disallowed in a registry, and then operations follow, any of them and in
any order, but for emptying registries.  A new signing key that is asked for through the registry,
or through one that goes back to it by copying, is refused; no engine is asked to generate it, and
it makes no difference which engine is there. -/
theorem refused_once_disallowed
    (hdisallowed : (Registry.isNewKeyAllowed id Jwt.privateKeyType s).1 = .ok false)
    {operations : List Operation} (hstems : Stems id s operations registry)
    (template : Jwt.Template) (customKid : Option Jwt.OfferedKid) :
    (∃ e t, ∀ crypto, SigningKeys.create crypto registry template customKid
        (Run.final Operation.action s operations) = (.error (.key e), t))
      ∧ ∀ crypto,
        (Script.signingKey crypto registry template customKid).action
            = SigningKeys.create crypto registry template customKid
          ∧ ∀ made ∈ (Script.signingKey crypto registry template customKid).calls
              (Run.final Operation.action s operations),
            ∀ manager engine format, made.call ≠ .createKey manager engine format := by
  have hstill := disallowed_of_stems (disallowed_of_answer hdisallowed) hstems
  obtain ⟨hrefused, hcalls⟩ := create_of_disallowed hstill template customKid
  exact ⟨hrefused, fun crypto =>
    ⟨Script.action_signingKey crypto registry template customKid, hcalls crypto⟩⟩

/-- A context that was made with the default settings and disallows new keys since. -/
def tightened : State :=
  (Context.update ⟨0⟩ [("new_key_allowed", .bool false)] (Context.create {} true {}).2).2

/-- A new instance is forced in, which asks for new keys, and so does an override. -/
def attempts : List Operation :=
  [.call (.register ⟨0⟩ { manager := .jwtSigner 1 ⟨0⟩, force := true }),
    .revise ⟨0⟩ (.update [("new_key_allowed", .bool true)])]

/-- The registry is copied, and an instance is forced into the copy. -/
def attemptsOnCopy : List Operation :=
  (attempts ++ [.copy ⟨0⟩ none])
    ++ [.call (.register ⟨1⟩
      { manager := .jwtSigner 2 ⟨1⟩, newKeyAllowed := false, force := true })]

/-- The copy of the copy refuses like the registry itself. -/
theorem refused_once_disallowed_attempts :
    (Registry.isNewKeyAllowed ⟨0⟩ Jwt.privateKeyType tightened).1 = .ok false
      ∧ Stems ⟨0⟩ tightened (attemptsOnCopy ++ [.createUnder ⟨0⟩ (some ⟨1⟩)]) ⟨2⟩
      ∧ ∃ e t, ∀ crypto, SigningKeys.create crypto ⟨2⟩ SigningKeys.mersenneTemplate
        (some (.text "kid"))
        (Run.final Operation.action tightened (attemptsOnCopy ++ [.createUnder ⟨0⟩ (some ⟨1⟩)]))
          = (.error (.key e), t) := by
  have hdisallowed : (Registry.isNewKeyAllowed ⟨0⟩ Jwt.privateKeyType tightened).1 = .ok false := by
    decide +kernel
  have hone : (Run.final Operation.action tightened attempts).registries.next = 1 := by
    decide +kernel
  have htwo : (Run.final Operation.action tightened attemptsOnCopy).registries.next = 2 := by
    decide +kernel
  have hcopy : Stems ⟨0⟩ tightened (attempts ++ [.copy ⟨0⟩ none]) ⟨1⟩ :=
    hone ▸ .copied (.later _ (.later _ .self)) rfl
  have hstems : Stems ⟨0⟩ tightened (attemptsOnCopy ++ [.createUnder ⟨0⟩ (some ⟨1⟩)]) ⟨2⟩ :=
    htwo ▸ .copied (.later _ hcopy) rfl
  obtain ⟨hrefused, -⟩ := refused_once_disallowed hdisallowed hstems SigningKeys.mersenneTemplate
    (some (.text "kid"))
  exact ⟨hdisallowed, hstems, hrefused⟩

end Session

end Keyring
