/-
# Carrying settings into a registry

A context has new settings first, and then carries them into its registry: where they require FIPS
it restricts the registry, and where they disallow new keys it takes the permission away from all
key types.

* `Context.Carries` lists the ways in which a change of settings ends, and what the context holds
  then.
* `Context.action_carries` says that there is no other.
-/
import Keyring.Proofs.Context.Disallowing

namespace Keyring.Context

/-! ## What a context holds -/

/-- The settings of a context, the policy of its registry and the directory. -/
structure Contents where
  settings : Settings
  policy : FipsPolicy
  directory : Directory

/-- What a context holds in a state. -/
def contents (id : ContextId) (s : State) : Contents where
  settings := (s.context id).settings
  policy := s.policyOf (s.context id).registry
  directory := s.directory (s.context id).registry

/-- The policy where settings require FIPS of it, or else as it is. -/
def Contents.required (c : Contents) (settings : Settings) : FipsPolicy :=
  if settings.fipsOnly then c.policy.restrict else c.policy

namespace Contents

variable {c : Contents} {settings : Settings}

/-- A restriction that is new finds the directory empty. -/
lemma required_or_isEmpty
    (hready : settings.fipsOnly = true → c.policy.restricted = true ∨ c.directory.isEmpty = true) :
    c.required settings = c.policy ∨ c.directory.isEmpty = true := by
  rw [required]
  cases hfips : settings.fipsOnly with
  | false => exact .inl rfl
  | true =>
    rw [if_pos rfl]
    exact (hready hfips).imp_left FipsPolicy.restrict_of_restricted

/-- A restriction makes no key type withstand that did not. -/
lemma withstands_required_iff
    (hready : settings.fipsOnly = true → c.policy.restricted = true ∨ c.directory.isEmpty = true)
    (k : String) :
    c.directory.Withstands (c.required settings) k ↔ c.directory.Withstands c.policy k := by
  rcases required_or_isEmpty hready with hpolicy | hempty
  · rw [hpolicy]
  · constructor <;> exact fun h => absurd hempty (Directory.not_isEmpty_of_withstands h)

end Contents

/-- The error with which a restriction ends that comes too late. -/
def populated : Failure :=
  .key ⟨.registryPopulated, none⟩

/-- How a change of settings ends that a context carries into its registry, given what the context
holds and the settings that were made, and what the context holds then. -/
inductive Carries (c : Contents) :
    Except Failure Settings → Except Failure Settings → Contents → Prop
  /-- No settings could be made. -/
  | invalid (e : Failure) : Carries c (.error e) (.error e) c
  /-- FIPS is required too late. -/
  | populated {t : Settings} (required : t.fipsOnly = true) (free : c.policy.restricted = false)
      (populated : c.directory.isEmpty = false) :
      Carries c (.ok t) (.error Context.populated) { c with settings := t }
  /-- New keys are disallowed, and a key type withstands. -/
  | insufficient {t : Settings} {keyType : String} (disallowed : t.newKeyAllowed = false)
      (ready : t.fipsOnly = true → c.policy.restricted = true)
      (withstands : c.directory.Withstands c.policy keyType)
      (first : ∀ k < keyType, ¬ c.directory.Withstands c.policy k) :
      Carries c (.ok t) (.error (Context.insufficient keyType))
        ⟨t, c.policy, c.directory.disallow (· < keyType)⟩
  | carried {t : Settings}
      (ready : t.fipsOnly = true → c.policy.restricted = true ∨ c.directory.isEmpty = true)
      (none : t.newKeyAllowed = false → ∀ k, ¬ c.directory.Withstands c.policy k) :
      Carries c (.ok t) (.ok t)
        ⟨t, c.required t,
          if t.newKeyAllowed then c.directory else c.directory.disallow fun _ => True⟩

namespace Carries

variable {c c' : Contents} {made : Except Failure Settings} {outcome : Except Failure Settings}
  {current : Settings} {e : Failure}

/-- The entries are what they were but for the permission of new keys. -/
lemma served (h : Carries c made outcome c') : c'.directory.served = c.directory.served := by
  cases h with
  | invalid | populated => rfl
  | insufficient => exact Directory.served_disallow c.directory _
  | carried =>
    dsimp only
    split
    · rfl
    · exact Directory.served_disallow c.directory _

/-- However a change ends, it permits new keys for no key type. -/
lemma tightens (h : Carries c made outcome c') : c.directory.Tightens c'.directory := by
  cases h with
  | invalid | populated => exact Directory.tightens_refl _
  | insufficient => exact Directory.tightens_disallow c.directory _
  | carried =>
    dsimp only
    split
    · exact Directory.tightens_refl _
    · exact Directory.tightens_disallow c.directory _

lemma of_ok (h : Carries c made (.ok current) c') :
    c'.settings = current
      ∧ (current.fipsOnly = true → c'.policy.restricted = true)
      ∧ (current.newKeyAllowed = true → c'.directory = c.directory)
      ∧ (current.newKeyAllowed = false → c'.directory = c.directory.disallow fun _ => True) := by
  cases h with
  | carried =>
    refine ⟨rfl, fun hfips => ?_, fun hallowed => ?_, fun hallowed => ?_⟩
    · rw [Contents.required, hfips]
      rfl
    · rw [hallowed]
      rfl
    · rw [hallowed]
      rfl

/-- A change that fails leaves all as it was if no settings could be made.  Otherwise the settings
that were made are held already. -/
lemma of_error (h : Carries c made (.error e) c') :
    (made = .error e ∧ c' = c)
      ∨ ∃ t, made = .ok t ∧ c'.settings = t
        ∧ ((e = Context.populated ∧ t.fipsOnly = true ∧ c.policy.restricted = false
            ∧ c.directory.isEmpty = false ∧ c'.directory = c.directory)
          ∨ ∃ keyType, e = Context.insufficient keyType ∧ t.newKeyAllowed = false
            ∧ c.directory.Withstands c.policy keyType
            ∧ (∀ k < keyType, ¬ c.directory.Withstands c.policy k)
            ∧ c'.directory = c.directory.disallow (· < keyType)) := by
  cases h with
  | invalid => exact .inl ⟨rfl, rfl⟩
  | populated required free populated =>
    exact .inr ⟨_, rfl, rfl, .inl ⟨rfl, required, free, populated, rfl⟩⟩
  | insufficient disallowed _ withstands first =>
    exact .inr ⟨_, rfl, rfl, .inr ⟨_, rfl, disallowed, withstands, first, rfl⟩⟩

/-- Without a restriction, a change that does not ask for one succeeds. -/
lemma eq_ok_of_free (h : Carries c (.ok current) outcome c') (hfree : c.policy.restricted = false)
    (hfips : current.fipsOnly = false) : outcome = .ok current := by
  cases h with
  | populated required => exact nomatch hfips.symm.trans required
  | insufficient _ _ withstands =>
    obtain ⟨entry, -, -, hforbidden⟩ := withstands
    rw [FipsPolicy.allows, hfree] at hforbidden
    cases hforbidden
  | carried => rfl

/-- A change that disallows new keys is stopped by the least key type that withstands. -/
lemma eq_error_of_withstands {keyType : String} (h : Carries c (.ok current) outcome c')
    (hready : current.fipsOnly = true → c.policy.restricted = true)
    (hdisallowed : current.newKeyAllowed = false)
    (hwithstands : c.directory.Withstands c.policy keyType)
    (hfirst : ∀ k < keyType, ¬ c.directory.Withstands c.policy k) :
    outcome = .error (Context.insufficient keyType) := by
  cases h with
  | populated required free => exact nomatch free.symm.trans (hready required)
  | @insufficient _ other _ _ withstands first =>
    have hle : keyType ≤ other := String.not_lt.1 fun hlt => hfirst other hlt withstands
    have hge : other ≤ keyType := String.not_lt.1 fun hlt => first keyType hlt hwithstands
    rw [String.le_antisymm hle hge]
  | carried _ none => exact absurd hwithstands (none hdisallowed keyType)

/-- A change that fails restricts nothing. -/
lemma policy_of_error (h : Carries c made (.error e) c') : c'.policy = c.policy := by
  cases h <;> rfl

end Carries

/-! ## One change -/

section Change

variable {id : ContextId} {s t : State} {settings : Settings}

/-- Counting and logging do not matter. -/
lemma contents_of_objects (h : t.objects = s.objects) : contents id t = contents id s :=
  State.eq_of_objects h (contents id) fun _ => rfl

lemma contents_of_files {d : Directory} (h : State.Files s t (s.context id).registry d) :
    contents id t = { contents id s with directory := d } := by
  rw [contents, State.context_eq_of_contexts h.contexts, h.policyOf, h.directory]
  rfl

/-- Where FIPS is required, it is so too late, or the policy of the registry is restricted
afterwards. -/
lemma require_cases (hs : Sound id s) (settings : Settings) :
    (settings.fipsOnly = true ∧ (contents id s).policy.restricted = false
        ∧ (contents id s).directory.isEmpty = false
        ∧ require id settings s = (.error populated, s))
      ∨ ((settings.fipsOnly = true → (contents id s).policy.restricted = true
          ∨ (contents id s).directory.isEmpty = true)
        ∧ ∃ t, require id settings s = (.ok (), t) ∧ t.contexts = s.contexts
          ∧ contents id t
            = { contents id s with policy := (contents id s).required settings }) := by
  have hpolicy : s.policy (s.context id).policy = (contents id s).policy := by
    rw [contents, State.policyOf, hs.policy]
  rw [require, Action.bind_of_ok (Action.get_apply s), Contents.required, hpolicy]
  cases hfips : settings.fipsOnly with
  | false => exact .inr ⟨fun h => absurd h Bool.false_ne_true, s, rfl, rfl, rfl⟩
  | true =>
    rw [Bool.true_and, if_pos rfl]
    rcases Registry.restrict_cases (s.context id).registry s with
      ⟨hrestricted, hrun⟩ | ⟨hfree, hempty, hout, hobjects⟩ | ⟨hfree, hpopulated, hrun⟩
    · replace hrestricted : (contents id s).policy.restricted = true := hrestricted
      refine .inr ⟨fun _ => .inl hrestricted, s, ?_, rfl, ?_⟩
      · rw [hrestricted]
        rfl
      · rw [FipsPolicy.restrict_of_restricted hrestricted]
    · replace hfree : (contents id s).policy.restricted = false := hfree
      refine .inr ⟨fun _ => .inr hempty, (Registry.restrict (s.context id).registry s).2, ?_,
        (State.contexts_eq_of_objects hobjects).trans rfl, ?_⟩
      · rw [hfree]
        exact Prod.ext hout rfl
      · rw [contents_of_objects hobjects]
        refine congrArg (Contents.mk _ · _) (State.policyOf_setPolicy_self ?_ _)
        rw [hs.policy]
        exact hs.policy_lt
    · replace hfree : (contents id s).policy.restricted = false := hfree
      refine .inl ⟨rfl, hfree, hpopulated, ?_⟩
      rw [hfree]
      exact hrun

/-- A context that has new settings carries them into its registry. -/
lemma apply_carries (hs : Sound id s) {c : Contents}
    (hc : contents id s = { c with settings := settings }) :
    ∃ outcome t, apply id settings s = (outcome, t) ∧ t.contexts = s.contexts
      ∧ Carries c (.ok settings) (outcome.map fun _ => settings) (contents id t) := by
  have hcases := require_cases hs settings
  rw [hc] at hcases
  rw [apply_eq]
  rcases hcases with ⟨hfips, hfree, hpopulated, hrun⟩ | ⟨hready, t, hrun, hcontexts, ht⟩
  · refine ⟨_, s, Action.bind_of_error hrun, rfl, ?_⟩
    rw [hc]
    exact .populated hfips hfree hpopulated
  · replace hready : settings.fipsOnly = true →
        c.policy.restricted = true ∨ c.directory.isEmpty = true := hready
    replace ht : contents id t = ⟨settings, c.required settings, c.directory⟩ := ht
    have hsound : Sound id t := by
      have hkept := stable_sound.require id settings s hs
      rwa [hrun] at hkept
    rw [Action.bind_of_ok hrun, ← State.context_eq_of_contexts hcontexts]
    cases hallowed : settings.newKeyAllowed with
    | true =>
      refine ⟨.ok (), t, rfl, hcontexts, ?_⟩
      rw [ht]
      have hcarried := Carries.carried hready fun h => nomatch hallowed.symm.trans h
      rwa [hallowed, if_pos rfl] at hcarried
    | false =>
      rw [if_neg Bool.false_ne_true]
      have hall := disallowAll_cases hsound.registry_lt hsound.coherent
      have hdirectory : t.directory (t.context id).registry = c.directory :=
        congrArg Contents.directory ht
      have hpolicyOf : t.policyOf (t.context id).registry = c.required settings :=
        congrArg Contents.policy ht
      rw [hdirectory, hpolicyOf] at hall
      simp only [Contents.withstands_required_iff hready] at hall
      rcases hall with ⟨keyType, u, hwithstands, hfirst, hrun, hu⟩ | ⟨hnone, u, hrun, hu⟩
      · refine ⟨_, u, hrun, hu.contexts.trans hcontexts, ?_⟩
        have hpopulated := Directory.not_isEmpty_of_withstands hwithstands
        rw [contents_of_files hu, ht,
          (Contents.required_or_isEmpty hready).resolve_right hpopulated]
        exact .insufficient hallowed (fun hfips => (hready hfips).resolve_right hpopulated)
          hwithstands hfirst
      · refine ⟨_, u, hrun, hu.contexts.trans hcontexts, ?_⟩
        rw [contents_of_files hu, ht]
        have hcarried := Carries.carried hready fun _ => hnone
        rwa [hallowed, if_neg Bool.false_ne_true] at hcarried

/-- How a revision of a context ends.  The context keeps its registry and its policy. -/
lemma action_carries (hs : Sound id s) (r : Revision) :
    ∃ outcome t, r.action id s = (outcome, t)
      ∧ (t.context id).registry = (s.context id).registry
      ∧ (t.context id).policy = (s.context id).policy
      ∧ Carries (contents id s) (r.settings s.host (s.context id).settings) outcome
        (contents id t) := by
  obtain ⟨u, hchange, hu⟩ := r.change_apply (s.context id).settings s
  have hcontext : u.context id = s.context id :=
    State.eq_of_objects hu (·.context id) fun _ => rfl
  rw [r.action_eq, changeSettings, Action.bind_of_ok (Action.get_apply s)]
  cases hsettings : r.settings s.host (s.context id).settings with
  | error e =>
    rw [hsettings] at hchange
    refine ⟨_, u, Action.bind_of_error hchange, ?_, ?_, ?_⟩
    · rw [hcontext]
    · rw [hcontext]
    · rw [contents_of_objects hu]
      exact .invalid e
  | ok settings =>
    rw [hsettings] at hchange
    have hsound := hs.of_objects hu
    have hset : (u.setContextSettings id settings).context id
        = { s.context id with settings := settings } := by
      rw [← hcontext]
      exact Table.get_set_self _ _ _ hsound.context_lt
    have hcontents : contents id (u.setContextSettings id settings)
        = { contents id s with settings := settings } := by
      rw [← contents_of_objects hu, contents, contents, hset, hcontext]
      rfl
    obtain ⟨outcome, t, happly, hcontexts, hcarries⟩ :=
      apply_carries (hsound.setContextSettings id settings) hcontents
    have hafter : t.context id = { s.context id with settings := settings } := by
      rw [State.context, hcontexts]
      exact hset
    rw [Action.bind_of_ok hchange]
    refine ⟨_, t, ?_, ?_, ?_, hcarries⟩
    · have hmodify : (modify fun s => s.setContextSettings id settings : Action Unit) u
          = (.ok (), u.setContextSettings id settings) := rfl
      rw [Action.bind_of_ok hmodify]
      cases outcome with
      | error e => exact Action.bind_of_error happly
      | ok _ => exact Action.bind_of_ok happly
    · rw [hafter]
    · rw [hafter]

end Change

end Keyring.Context
