/-
# How actions run

An action takes a state to an outcome and a state.  This file says how the basic actions run, and
what counting and logging leave alone.

* `Action.bind_of_ok`, `Action.bind_of_error` and `Action.bind_eq_ok` open an action step by step.
* `State.objects` is a state without its counters and its journal; counting and logging keep it, and
  registries are read from it.
* `Action.Reads` is said of actions that change nothing, `Action.Quiet` of actions that only count
  and log, and `Action.Keeps` of actions that keep a property of the state.
* `Action.withBound_apply` opens an action that binds log fields: the fields change neither its
  outcome nor the objects.
-/
import Keyring.Action
import Mathlib.Tactic.Lemma

namespace Keyring

/-! ## Objects -/

/-- The state without its counters and its journal. -/
def State.objects (s : State) : State :=
  { s with metrics := {}, journal := {} }

namespace State

variable {s t : State}

/-- What is read from the objects is the same if these are. -/
lemma eq_of_objects {β : Type} (h : t.objects = s.objects) (f : State → β)
    (hf : ∀ s : State, f s.objects = f s) : f t = f s := by
  rw [← hf t, h, hf s]

lemma registry_eq_of_objects (h : t.objects = s.objects) (id : RegistryId) :
    t.registry id = s.registry id :=
  eq_of_objects h (·.registry id) fun _ => rfl

lemma templates_eq_of_objects (h : t.objects = s.objects) (id : TemplatesId) :
    t.templates id = s.templates id :=
  eq_of_objects h (·.templates id) fun _ => rfl

lemma policies_eq_of_objects (h : t.objects = s.objects) : t.policies = s.policies :=
  eq_of_objects h (·.policies) fun _ => rfl

lemma registries_eq_of_objects (h : t.objects = s.objects) : t.registries = s.registries :=
  eq_of_objects h (·.registries) fun _ => rfl

lemma contexts_eq_of_objects (h : t.objects = s.objects) : t.contexts = s.contexts :=
  eq_of_objects h (·.contexts) fun _ => rfl

lemma context_eq_of_contexts (h : t.contexts = s.contexts) (id : ContextId) :
    t.context id = s.context id := by
  rw [context, h, context]

lemma holders_eq_of_objects (h : t.objects = s.objects) : t.holders = s.holders :=
  eq_of_objects h (·.holders) fun _ => rfl

end State

namespace Action

variable {α β : Type}

/-! ## Basic actions -/

lemma get_apply (s : State) : (get : Action State) s = (.ok s, s) := rfl

lemma bind_of_ok {x : Action α} {f : α → Action β} {s t : State} {a : α} (h : x s = (.ok a, t)) :
    (x >>= f) s = f a t := by
  change ExceptT.bindCont f (x s).1 (x s).2 = f a t
  rw [h]
  rfl

lemma bind_of_error {x : Action α} {f : α → Action β} {s t : State} {e : Failure}
    (h : x s = (.error e, t)) : (x >>= f) s = (.error e, t) := by
  change ExceptT.bindCont f (x s).1 (x s).2 = (.error e, t)
  rw [h]
  rfl

/-- What an action that succeeds went through. -/
lemma bind_eq_ok {x : Action α} {f : α → Action β} {s t : State} {b : β} :
    (x >>= f) s = (.ok b, t) ↔ ∃ a u, x s = (.ok a, u) ∧ f a u = (.ok b, t) := by
  constructor
  · intro h
    rcases hx : x s with ⟨_ | a, u⟩
    · rw [bind_of_error hx] at h
      cases h
    · rw [bind_of_ok hx] at h
      exact ⟨a, u, rfl, h⟩
  · rintro ⟨a, u, hx, hf⟩
    rw [bind_of_ok hx, hf]

/-- Only the result is changed. -/
lemma bind_pure_apply (x : Action α) (f : α → β) (s : State) :
    (x >>= fun a => pure (f a)) s = ((x s).1.map f, (x s).2) := by
  rcases hx : x s with ⟨_ | a, t⟩
  · exact bind_of_error hx
  · exact bind_of_ok hx

/-- Only the result is dropped. -/
lemma discard_apply (x : Action α) (s : State) :
    (discard x : Action Unit) s = ((x s).1.map fun _ => (), (x s).2) :=
  bind_pure_apply x (fun _ => ()) s

/-- A result that is given on leaves the state as it is. -/
lemma ofKey_eq_ok_iff {r : Except KeyError α} {s t : State} {a : α} :
    ofKey r s = (.ok a, t) ↔ r = .ok a ∧ t = s := by
  cases r with
  | error e =>
    constructor
    · intro h
      cases h
    · rintro ⟨h, -⟩
      cases h
  | ok b =>
    constructor
    · intro h
      cases h
      exact ⟨rfl, rfl⟩
    · rintro ⟨h, rfl⟩
      cases h
      rfl

/-- A failure that is caught leaves the state to the handler. -/
lemma tryCatch_of_error {x : Action α} {f : Failure → Action α} {s t : State} {e : Failure}
    (h : x s = (.error e, t)) : (tryCatch x f : Action α) s = f e t := by
  simp only [tryCatch, tryCatchThe, MonadExceptOf.tryCatch, ExceptT.tryCatch, ExceptT.mk, bind,
    StateT.bind, h]

lemma tryCatch_of_ok {x : Action α} {f : Failure → Action α} {s t : State} {a : α}
    (h : x s = (.ok a, t)) : (tryCatch x f : Action α) s = (.ok a, t) := by
  simp only [tryCatch, tryCatchThe, MonadExceptOf.tryCatch, ExceptT.tryCatch, ExceptT.mk, bind,
    StateT.bind, h]
  rfl

lemma ofExcept_apply (r : Except Failure α) (s : State) : ofExcept r s = (r, s) := by
  cases r <;> rfl

lemma ofExcept_eq_ok_iff {r : Except Failure α} {s t : State} {a : α} :
    ofExcept r s = (.ok a, t) ↔ r = .ok a ∧ t = s := by
  rw [ofExcept_apply, Prod.mk.injEq, eq_comm (a := s)]

/-! ## Actions that change nothing -/

/-- However the action ends, the state is as it was. -/
def Reads (x : Action α) : Prop :=
  ∀ s, (x s).2 = s

namespace Reads

lemma pure (a : α) : Reads (Pure.pure a) := fun _ => rfl

lemma get : Reads (MonadState.get : Action State) := fun _ => rfl

lemma throw (e : Failure) : Reads (MonadExcept.throw e : Action α) := fun _ => rfl

lemma ofKey (r : Except KeyError α) : Reads (Action.ofKey r) := by
  cases r with
  | error e => exact throw _
  | ok a => exact pure a

lemma bind {x : Action α} {f : α → Action β} (hx : Reads x) (hf : ∀ a, Reads (f a)) :
    Reads (x >>= f) := by
  intro s
  have hsame := hx s
  rcases hrun : x s with ⟨_ | a, t⟩
  · rw [bind_of_error hrun]
    rwa [hrun] at hsame
  · rw [bind_of_ok hrun]
    rw [hrun] at hsame
    exact (hf a t).trans hsame

end Reads

/-! ## Actions that only count and log -/

/-- An action that cannot fail and leaves the objects as they are. -/
def Quiet (x : Action Unit) : Prop :=
  ∀ s, ∃ t, x s = (.ok (), t) ∧ t.objects = s.objects

lemma quiet_note (severity : Log.Severity) (source : Log.Source) (message : String) :
    Quiet (note severity source message) :=
  fun _ => ⟨_, rfl, rfl⟩

lemma Quiet.forM {f : β → Action Unit} (h : ∀ b, Quiet (f b)) (bs : List β) :
    Quiet (bs.forM f) := by
  induction bs with
  | nil => exact fun s => ⟨s, rfl, rfl⟩
  | cons b bs ih =>
    intro s
    obtain ⟨t, hb, ht⟩ := h b s
    obtain ⟨u, hbs, hu⟩ := ih t
    exact ⟨u, (bind_of_ok hb).trans hbs, hu.trans ht⟩

/-- What comes after such an action finds the same objects. -/
lemma Quiet.bind_apply {x : Action Unit} (h : Quiet x) (y : Action α) (s : State) :
    ∃ t, (x >>= fun _ => y) s = y t ∧ t.objects = s.objects := by
  obtain ⟨t, hx, ht⟩ := h s
  exact ⟨t, bind_of_ok hx, ht⟩

/-! ## What actions keep -/

/-- What holds before an action holds after it, however it ends. -/
def Keeps (P : State → Prop) (x : Action α) : Prop :=
  ∀ s, P s → P (x s).2

namespace Keeps

variable {P : State → Prop}

lemma pure (a : α) : Keeps P (Pure.pure a) := fun _ hs => hs

lemma get : Keeps P (MonadState.get : Action State) := fun _ hs => hs

/-- The state that the first part leaves is where the rest begins. -/
lemma apply_bind {x : Action α} {f : α → Action β} {s : State} (hx : P (x s).2)
    (hf : ∀ a, Keeps P (f a)) : P ((x >>= f) s).2 := by
  rcases hrun : x s with ⟨_ | a, t⟩
  · rw [bind_of_error hrun]
    rwa [hrun] at hx
  · rw [bind_of_ok hrun]
    rw [hrun] at hx
    exact hf a t hx

lemma bind {x : Action α} {f : α → Action β} (hx : Keeps P x) (hf : ∀ a, Keeps P (f a)) :
    Keeps P (x >>= f) :=
  fun s hs => apply_bind (hx s hs) hf

lemma forM {f : β → Action Unit} (h : ∀ b, Keeps P (f b)) (bs : List β) : Keeps P (bs.forM f) := by
  induction bs with
  | nil => exact pure ()
  | cons b bs ih => exact (h b).bind fun _ => ih

lemma discard {x : Action α} (h : Keeps P x) : Keeps P (discard x : Action Unit) := by
  intro s hs
  rw [discard_apply]
  exact h s hs

end Keeps

/-! ## Bound log fields -/

/-- The fields bound for an action change neither its outcome nor the objects, given that its
outcome and the objects it leaves do not depend on the journal. -/
lemma withBound_apply (fields : Fields) (body : Action α) (s : State) :
    (withBound fields body s).1 = (body { s with journal := s.journal.bind fields }).1
      ∧ (withBound fields body s).2.objects
        = (body { s with journal := s.journal.bind fields }).2.objects :=
  ⟨rfl, rfl⟩

end Action

end Keyring
