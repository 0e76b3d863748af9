/-
# Contexts in the course of a run

A context is made together with a policy and a registry of its own.  Whatever is registered,
restricted or changed afterwards, the registry stays under the policy of the context, and its
directory stays coherent.

* `Context.Sound` is what a context always satisfies; `Context.sound_create` says so of a context
  that was just made.
* `Context.apply_keeps`, `Context.Revision.keeps` and `Context.bootstrap_keeps` say what has to keep
  a property of the state, so that a change of settings or the filling of a registry keeps it.
* `Context.Stable` is said of properties that registrations and restrictions keep; every call keeps
  them, by `Context.Stable.call`.
* `Context.stable_sound` is the step from one call to the next, and `Context.sound_final` follows a
  whole run.
-/
import Keyring.Context
import Keyring.Proofs.Directory.Disallowing
import Keyring.Proofs.Registry.Calls
import Keyring.Proofs.Run
import Keyring.Proofs.Settings.Overriding

namespace Keyring.Context

open Keyring.Action (Keeps)

variable {id : ContextId} {s t : State}

/-- However settings are taken, a context keeps all else. -/
lemma exists_context_setContextSettings (s : State) (other : ContextId) (settings : Settings)
    (id : ContextId) : ∃ settings', (s.setContextSettings other settings).context id
      = { s.context id with settings := settings' } := by
  have hsame := Table.apply_get_set (fun c : Context => { c with settings }) s.contexts other.index
    { s.context other with settings } rfl id.index
  exact ⟨((s.setContextSettings other settings).context id).settings, congrArg (fun c : Context =>
    { c with settings := ((s.setContextSettings other settings).context id).settings }) hsame⟩

/-- What a context always satisfies: it is there with its registry and its policy, the registry is
under the policy, and its directory is coherent. -/
structure Sound (id : ContextId) (s : State) : Prop where
  context_lt : id.index < s.contexts.next
  registry_lt : (s.context id).registry.index < s.registries.next
  policy_lt : (s.context id).policy.index < s.policies.next
  policy : (s.registry (s.context id).registry).policy = (s.context id).policy
  coherent : (s.directory (s.context id).registry).Coherent

namespace Sound

/-- What the tables of contexts, policies and registries hold decides. -/
lemma congr (h : Sound id s) (hcontexts : t.contexts = s.contexts)
    (hregistries : t.registries = s.registries) (hpolicies : t.policies.next = s.policies.next) :
    Sound id t := by
  have hcontext := State.context_eq_of_contexts hcontexts id
  have hregistry : ∀ r, t.registry r = s.registry r := fun r => by
    rw [State.registry, hregistries, State.registry]
  constructor
  · exact hcontexts ▸ h.context_lt
  · rw [hcontext, hregistries]
    exact h.registry_lt
  · rw [hcontext, hpolicies]
    exact h.policy_lt
  · rw [hcontext, hregistry]
    exact h.policy
  · rw [hcontext, State.directory, hregistry]
    exact h.coherent

lemma of_objects (h : Sound id s) (ht : t.objects = s.objects) : Sound id t :=
  h.congr (State.contexts_eq_of_objects ht) (State.registries_eq_of_objects ht)
    (by rw [State.policies_eq_of_objects ht])

lemma setDirectory (h : Sound id s) {registry : RegistryId} {d : Directory}
    (hd : registry = (s.context id).registry → d.Coherent) :
    Sound id (s.setDirectory registry d) := by
  have hcontext : (s.setDirectory registry d).context id = s.context id := rfl
  have hregistry : (s.setDirectory registry d).registry (s.context id).registry
      = s.registry (s.context id).registry
        ∨ d.Coherent ∧ (s.setDirectory registry d).registry (s.context id).registry
          = { s.registry (s.context id).registry with directory := d } := by
    by_cases heq : registry = (s.context id).registry
    · refine .inr ⟨hd heq, ?_⟩
      subst heq
      exact State.registry_setDirectory_self h.registry_lt d
    · exact .inl (State.registry_setDirectory_of_ne (Ne.symm heq) d)
  constructor
  · exact h.context_lt
  · rw [hcontext, State.next_setDirectory]
    exact h.registry_lt
  · exact h.policy_lt
  · rw [hcontext]
    rcases hregistry with hregistry | ⟨-, hregistry⟩ <;> rw [hregistry] <;> exact h.policy
  · rw [hcontext, State.directory]
    rcases hregistry with hregistry | ⟨hcoherent, hregistry⟩ <;> rw [hregistry]
    · exact h.coherent
    · exact hcoherent

lemma setContextSettings (h : Sound id s) (other : ContextId) (settings : Settings) :
    Sound id (s.setContextSettings other settings) := by
  obtain ⟨settings', hcontext⟩ := exists_context_setContextSettings s other settings id
  have hnext : (s.setContextSettings other settings).contexts.next = s.contexts.next :=
    Table.next_set ..
  constructor
  · rw [hnext]
    exact h.context_lt
  all_goals rw [hcontext]
  · exact h.registry_lt
  · exact h.policy_lt
  · exact h.policy
  · exact h.coherent

end Sound

/-! ## Carrying settings into a registry -/

/-- The permission of new keys is taken away by registering the manager of the entry again. -/
lemma disallowNewKeys_apply {registry : RegistryId} {keyType : String} {entry : DirectoryEntry}
    (h : (s.directory registry).find? keyType = some entry) :
    disallowNewKeys registry keyType s = (if entry.newKeyAllowed then do
      Registry.register registry (Directory.disallowing entry)
      Action.note .info .context s!"new keys disabled for {keyType}" else pure ()) s := by
  have hflag : Registry.isNewKeyAllowed registry keyType s = (.ok entry.newKeyAllowed, s) :=
    Action.bind_of_ok (Registry.entry_apply h)
  have hmanager : Registry.manager registry keyType s = (.ok entry.manager, s) :=
    Action.bind_of_ok (Registry.entry_apply h)
  rw [disallowNewKeys, Action.bind_of_ok hflag]
  cases entry.newKeyAllowed with
  | false => rfl
  | true => exact Action.bind_of_ok hmanager

/-- Restricts the registry of a context where the settings require FIPS. -/
def require (id : ContextId) (settings : Settings) : Action Unit := do
  let s ← get
  if settings.fipsOnly && !(s.policy (s.context id).policy).restricted then
    Registry.restrict (s.context id).registry

/-- Disallows new keys of all key types for which they are allowed, one after the other. -/
def disallowAll (registry : RegistryId) : Action Unit := do
  let keyTypes := ((← get).directory registry).keyTypes.mergeSort fun a b => a ≤ b
  keyTypes.forM (disallowNewKeys registry)

/-- First comes the FIPS restriction and then, whether there was one or not, the permission of new
keys. -/
lemma apply_eq (id : ContextId) (settings : Settings) (s : State) :
    apply id settings s = (require id settings >>= fun _ =>
      if settings.newKeyAllowed then pure () else disallowAll (s.context id).registry) s := by
  change _ = ((if settings.fipsOnly && !(s.policy (s.context id).policy).restricted then
    Registry.restrict (s.context id).registry else pure ()) >>= fun _ =>
      if settings.newKeyAllowed then pure () else disallowAll (s.context id).registry) s
  rw [apply, Action.bind_of_ok (Action.get_apply s)]
  dsimp only
  cases settings.newKeyAllowed <;>
    cases settings.fipsOnly && !(s.policy (s.context id).policy).restricted <;> rfl

/-- What the restriction of its registry and the disallowing of new keys in it keep is kept when a
context carries settings into it. -/
lemma apply_keeps {P : State → Prop}
    (hrestrict : Keeps P (Registry.restrict (s.context id).registry))
    (hdisallow : ∀ keyType, Keeps P (disallowNewKeys (s.context id).registry keyType))
    (settings : Settings) (hs : P s) : P (apply id settings s).2 := by
  have happly : apply id settings s
      = ((if settings.fipsOnly && !(s.policy (s.context id).policy).restricted then
          Registry.restrict (s.context id).registry else pure ()) >>= fun _ =>
            if settings.newKeyAllowed then pure () else disallowAll (s.context id).registry) s :=
    apply_eq id settings s
  rw [happly]
  refine Keeps.bind ?_ (fun _ => ?_) s hs
  · split
    · exact hrestrict
    · exact .pure ()
  · split
    · exact .pure ()
    · exact Keeps.get.bind fun _ => Keeps.forM hdisallow _

/-! ## Ways to change settings -/

/-- A way to change the settings of a context. -/
inductive Revision where
  /-- Takes overrides. -/
  | update (overrides : Fields)
  /-- Takes what the host gives now. -/
  | refresh

namespace Revision

/-- What a revision does. -/
def action (id : ContextId) : Revision → Action Settings
  | update overrides => Context.update id overrides
  | refresh => Context.refresh id

/-- The settings that a revision makes of those before. -/
def settings (host : Host) (s : Settings) : Revision → Except Failure Settings
  | update overrides => s.override overrides
  | refresh => s.overrideFrom host

/-- How a revision changes settings, as an action. -/
def change : Revision → Settings → Action Settings
  | update overrides => fun s => s.revise overrides
  | refresh => Settings.reload

lemma action_eq (id : ContextId) (r : Revision) : r.action id = changeSettings id r.change := by
  cases r <;> rfl

lemma change_apply (r : Revision) (settings : Settings) (s : State) :
    ∃ t, r.change settings s = (r.settings s.host settings, t) ∧ t.objects = s.objects := by
  cases r with
  | update overrides => exact settings.revise_apply overrides s
  | refresh => exact settings.reload_apply s

/-- What depends on the objects alone, and is kept where a context takes settings and carries them
into its registry, is kept by a revision. -/
lemma keeps {P : State → Prop} (hobjects : ∀ {s t : State}, P s → t.objects = s.objects → P t)
    (htake : ∀ {s : State} settings, P s → P (s.setContextSettings id settings))
    (happly : ∀ settings, Keeps P (Context.apply id settings)) (r : Revision) :
    Keeps P (r.action id) := by
  rw [r.action_eq]
  refine Keeps.get.bind fun u => Keeps.bind (fun s hs => ?_) fun settings => ?_
  · obtain ⟨t, hrun, ht⟩ := r.change_apply (u.context id).settings s
    rw [hrun]
    exact hobjects hs ht
  · exact Keeps.bind (fun s hs => htake settings hs) fun _ => (happly settings).bind fun _ =>
      .pure settings

end Revision

/-! ## What calls keep -/

/-- The property depends neither on counters and journal nor on the host and the settings of
contexts, and a registration or a restriction of any registry keeps it. -/
structure Stable (P : State → Prop) : Prop where
  objects : ∀ {s t}, P s → t.objects = s.objects → P t
  host : ∀ {s} host, P s → P { s with host }
  settings : ∀ {s} id settings, P s → P (s.setContextSettings id settings)
  register : ∀ registry r, Keeps P (Registry.register registry r)
  restrict : ∀ registry, Keeps P (Registry.restrict registry)

namespace Stable

variable {P : State → Prop} {α : Type} (hP : Stable P)
include hP

lemma of_objects {x : Action α} (h : ∀ s, (x s).2.objects = s.objects) : Keeps P x :=
  fun s hs => hP.objects hs (h s)

lemma quiet {x : Action Unit} (h : Action.Quiet x) : Keeps P x := by
  refine hP.of_objects fun s => ?_
  obtain ⟨t, hrun, ht⟩ := h s
  rwa [hrun]

lemma entry (registry : RegistryId) (keyType : String) :
    Keeps P (Registry.entry registry keyType) := by
  refine hP.of_objects fun s => ?_
  rw [Registry.entry, Action.bind_of_ok (Action.get_apply s)]
  cases (s.directory registry).find? keyType <;> rfl

lemma disallowNewKeys (registry : RegistryId) (keyType : String) :
    Keeps P (Context.disallowNewKeys registry keyType) := by
  refine ((hP.entry registry keyType).bind fun _ => .pure _).bind fun allowed => ?_
  split
  · refine ((hP.entry registry keyType).bind fun _ => .pure _).bind fun manager => ?_
    exact (hP.register registry _).bind fun _ => hP.quiet (Action.quiet_note _ _ _)
  · exact .pure ()

lemma require (id : ContextId) (settings : Settings) : Keeps P (Context.require id settings) := by
  refine Keeps.get.bind fun u => ?_
  split
  · exact hP.restrict _
  · exact .pure ()

lemma apply (id : ContextId) (settings : Settings) : Keeps P (Context.apply id settings) :=
  fun _ hs => apply_keeps (hP.restrict _) (hP.disallowNewKeys _) settings hs

lemma revision (r : Revision) (id : ContextId) : Keeps P (r.action id) :=
  r.keeps hP.objects (fun settings hs => hP.settings id settings hs) (hP.apply id)

end Stable

/-- A context stays sound. -/
lemma stable_sound : Stable (Sound id) where
  objects hs ht := hs.of_objects ht
  host _ hs := hs.congr rfl rfl rfl
  settings other settings hs := hs.setContextSettings other settings
  register registry r := by
    intro s hs
    cases hregister : Directory.register (s.policyOf registry) (s.directory registry) r with
    | error refusal => exact hs.of_objects (Registry.register_of_error hregister).2
    | ok accepted =>
      obtain ⟨acceptance, d⟩ := accepted
      refine (hs.setDirectory fun heq => ?_).of_objects (Registry.register_of_ok hregister).2
      exact Directory.Coherent.register (heq ▸ hs.coherent) hregister
  restrict registry := by
    intro s hs
    rcases Registry.restrict_cases registry s with ⟨-, h⟩ | ⟨-, -, -, h⟩ | ⟨-, -, h⟩
    · rwa [h]
    · exact Sound.of_objects
        (s := s.setPolicy (s.registry registry).policy (s.policyOf registry).restrict)
        (hs.congr rfl rfl (Table.next_set ..)) h
    · rwa [h]

/-! ## Making contexts -/

section Making

/-- What does not depend on templates and the log, and is there once the new manager has been
registered under the policy of the registry, is there when the templates have been put. -/
lemma signingKeys_keeps {P : State → Prop} {registry : RegistryId} {newKeyAllowed : Bool}
    (hrest : ∀ {t : State} templateTables journal, P t → P { t with templateTables, journal })
    (hregister : P (Registry.register registry
      { manager := .jwtSigner s.managerCount (s.registry registry).policy
        declared := .requiresCertifiedModule
        newKeyAllowed } { s with managerCount := s.managerCount + 1 }).2)
    (templates : TemplatesId) :
    P (SigningKeys.register registry templates newKeyAllowed s).2 := by
  have hput : ∀ values, Keeps P (Templates.putAll templates values) := fun values t ht => by
    rw [Templates.putAll, Action.bind_of_ok (Action.get_apply t)]
    cases (t.templates templates).putAll values with
    | error e => exact ht
    | ok table => exact hrest (t := t) _ _ ht
  change P ((Registry.register registry _ >>= fun _ =>
    Templates.putAll templates Jwt.Template.named >>= fun _ => pure _ : Action Manager) _).2
  exact Keeps.apply_bind hregister fun _ => (hput _).bind fun _ => .pure _

lemma keeps_signingKeys (registry : RegistryId) (templates : TemplatesId) (newKeyAllowed : Bool) :
    Keeps (Sound id) (SigningKeys.register registry templates newKeyAllowed) := fun _ hs =>
  signingKeys_keeps (fun _ _ ht => ht.congr rfl rfl rfl)
    (stable_sound.register _ _ _ (hs.congr rfl rfl rfl)) templates

/-- What the restriction of its registry and the registration of the manager of signing keys in it
keep is kept when a context fills its registry. -/
lemma bootstrap_keeps {P : State → Prop}
    (hobjects : ∀ {s t : State}, P s → t.objects = s.objects → P t)
    (hrestrict : Keeps P (Registry.restrict (s.context id).registry))
    (hregister : ∀ newKeyAllowed, Keeps P (SigningKeys.register (s.context id).registry
      (s.context id).templates newKeyAllowed)) (hs : P s) : P (bootstrap id s).2 := by
  rw [bootstrap, Action.bind_of_ok (Action.get_apply s)]
  dsimp only
  -- the restriction and the registration may each be left out; in the end only the log is written
  have hready : ∀ message : State → String, Keeps P (do
      let s ← get
      Action.note .info .context (message s)) := fun message =>
    Keeps.get.bind fun _ => fun s hs => hobjects hs rfl
  split <;> split
  · refine hrestrict.bind (fun _ => ?_) s hs
    exact (hregister _).discard.bind fun _ => hready _
  · exact hrestrict.bind (fun _ => hready _) s hs
  · exact (hregister _).discard.bind (fun _ => hready _) s hs
  · exact hready _ s hs

lemma keeps_bootstrap (other : ContextId) : Keeps (Sound id) (bootstrap other) := fun _ hs =>
  bootstrap_keeps Sound.of_objects (stable_sound.restrict _) (keeps_signingKeys _ _) hs

/-- The state with a context that is about to be filled. -/
def made (settings : Settings) (s : State) : State :=
  { s with
    policies := s.policies.add { moduleAvailable := settings.fipsModuleAvailable }
    registries := s.registries.add { policy := ⟨s.policies.next⟩ }
    templateTables := s.templateTables.add {}
    contexts := s.contexts.add {
      settings
      policy := ⟨s.policies.next⟩
      registry := ⟨s.registries.next⟩
      templates := ⟨s.templateTables.next⟩ } }

lemma sound_made (settings : Settings) (s : State) :
    Sound ⟨s.contexts.next⟩ (made settings s) := by
  have hcontext : (made settings s).context ⟨s.contexts.next⟩ = {
      settings
      policy := ⟨s.policies.next⟩
      registry := ⟨s.registries.next⟩
      templates := ⟨s.templateTables.next⟩ } := Table.get_add_next ..
  have hregistry : (made settings s).registry ⟨s.registries.next⟩
      = { policy := ⟨s.policies.next⟩ } := Table.get_add_next ..
  constructor
  · exact (Table.next_add s.contexts _).symm ▸ Nat.lt_succ_self _
  all_goals rw [hcontext]
  · exact (Table.next_add s.registries _).symm ▸ Nat.lt_succ_self _
  · exact (Table.next_add s.policies _).symm ▸ Nat.lt_succ_self _
  · rw [hregistry]
  · rw [State.directory, hregistry]
    exact Directory.coherent_empty

lemma create_apply (settings : Settings) (fill : Bool) (s : State) :
    create settings fill s
      = ((if fill then bootstrap ⟨s.contexts.next⟩ else pure ()) >>= fun _ =>
          pure ⟨s.contexts.next⟩) (made settings s) := by
  cases fill <;> rfl

/-- A context is sound when it was made. -/
lemma sound_create {settings : Settings} {fill : Bool}
    (h : create settings fill s = (.ok id, t)) : Sound id t := by
  rw [create_apply, Action.bind_eq_ok] at h
  obtain ⟨_, u, hfill, hpure⟩ := h
  obtain ⟨rfl, rfl⟩ : ⟨s.contexts.next⟩ = id ∧ u = t := by
    cases hpure
    exact ⟨rfl, rfl⟩
  have hkeeps : Keeps (Sound ⟨s.contexts.next⟩)
      (if fill then bootstrap ⟨s.contexts.next⟩ else pure ()) := by
    split
    · exact keeps_bootstrap _
    · exact .pure ()
  have hsound := hkeeps _ (sound_made settings s)
  rwa [hfill] at hsound

end Making

/-! ## Calls -/

/-- A call of a client, or a change of the host.  The contexts and registries may be any. -/
inductive Call where
  | revise (id : ContextId) (revision : Revision)
  | register (id : RegistryId) (request : Directory.Request)
  | restrict (id : RegistryId)
  /-- Other variables are set and other files are there. -/
  | changeHost (host : Host)

/-- What a call does. -/
def Call.action : Call → Action Unit
  | revise id revision => discard (revision.action id)
  | register id r => Registry.register id r
  | restrict id => Registry.restrict id
  | changeHost host => modify fun s => { s with host }

lemma Stable.call {P : State → Prop} (hP : Stable P) (c : Call) : Keeps P c.action := by
  cases c with
  | revise id revision => exact (hP.revision revision id).discard
  | register registry r => exact hP.register registry r
  | restrict registry => exact hP.restrict registry
  | changeHost host => exact fun s hs => hP.host host hs

/-- A context stays sound, whatever is called. -/
lemma sound_final (hs : Sound id s) (calls : List Call) :
    Sound id (Run.final Call.action s calls) :=
  Run.final_induction (fun c s hs => stable_sound.call c s hs) hs calls

end Keyring.Context
