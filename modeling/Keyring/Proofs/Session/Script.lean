/-
# Which calls an operation makes

Registrations, lookups and the work of key managers are counted, also where another operation makes
such a call on its way.  A script is an operation in which these calls are marked, and the places
where it switches metrics on or off.

* `Session.Counted` lists the calls, and `Session.Script` the operations that are made up of them,
  of making registries, of switching metrics, and of what leaves registries and metrics alone.
* `Script.action` is what a script does, and `Script.calls` the calls that it makes from a state, as
  far as it comes.
* `Script.keeps` is the induction over scripts.
-/
import Keyring.Manager.Operations
import Keyring.Proofs.Action
import Keyring.Proofs.Run
import Keyring.Setup

namespace Keyring

/-- The registries are as before, and so are the counts and whether metrics are switched on. -/
structure State.Spares (s t : State) : Prop where
  registries : t.registries = s.registries
  metrics : t.metrics = s.metrics

namespace Session

open Keyring.Action (Keeps)

/-! ## Actions that are not counted -/

section Aside

variable {α β : Type}

/-- Whatever an action changes, it spares the registries and the metrics. -/
def Aside (x : Action α) : Prop :=
  ∀ s : State, s.Spares (x s).2

namespace Aside

lemma pure (a : α) : Aside (Pure.pure a) := fun _ => ⟨rfl, rfl⟩

lemma get : Aside (MonadState.get : Action State) := fun _ => ⟨rfl, rfl⟩

lemma throw (e : Failure) : Aside (MonadExcept.throw e : Action α) := fun _ => ⟨rfl, rfl⟩

lemma ofKey (r : Except KeyError α) : Aside (Action.ofKey r) := by
  cases r with
  | error e => exact throw _
  | ok a => exact pure a

lemma ofExcept (r : Except Failure α) : Aside (Action.ofExcept r) := by
  cases r with
  | error e => exact throw e
  | ok a => exact pure a

lemma of_modify {f : State → State} (h : ∀ s : State, s.Spares (f s)) :
    Aside (modify f : Action Unit) := h

/-- What changes nothing spares everything. -/
lemma of_reads {x : Action α} (h : x.Reads) : Aside x := fun s => by
  rw [h s]
  exact ⟨rfl, rfl⟩

lemma note (severity : Log.Severity) (source : Log.Source) (message : String) :
    Aside (Action.note severity source message) := fun _ => ⟨rfl, rfl⟩

lemma bind {x : Action α} {f : α → Action β} (hx : Aside x) (hf : ∀ a, Aside (f a)) :
    Aside (x >>= f) := by
  intro s
  have hspared := hx s
  rcases hrun : x s with ⟨_ | a, t⟩
  · rw [Action.bind_of_error hrun]
    rwa [hrun] at hspared
  · rw [Action.bind_of_ok hrun]
    rw [hrun] at hspared
    have hrest := hf a t
    exact ⟨hrest.registries.trans hspared.registries, hrest.metrics.trans hspared.metrics⟩

/-- What is written may depend on the state that was read. -/
lemma get_bind {f : State → Action α} (h : ∀ s : State, s.Spares (f s s).2) :
    Aside (MonadState.get >>= f) := fun s => by
  rw [Action.bind_of_ok (Action.get_apply s)]
  exact h s

/-- What is written may also depend on something that was worked out from the state. -/
lemma get_bind_ofExcept {r : State → Except Failure β} {f : State → β → Action α}
    (h : ∀ (s : State) (b : β), s.Spares (f s b s).2) :
    Aside (MonadState.get >>= fun s => Action.ofExcept (r s) >>= f s) := get_bind fun s => by
  cases r s with
  | error e => exact throw e s
  | ok b => exact h s b

lemma forM {f : β → Action Unit} (h : ∀ b, Aside (f b)) (bs : List β) : Aside (bs.forM f) := by
  induction bs with
  | nil => exact pure ()
  | cons b bs ih => exact (h b).bind fun _ => ih

lemma discard {x : Action α} (h : Aside x) : Aside (discard x : Action Unit) := fun s => by
  rw [Action.discard_apply]
  exact h s

end Aside

end Aside

/-! ## Calls that are counted -/

/-- A call that the counters may tell of. -/
inductive Counted where
  | register (id : RegistryId) (request : Directory.Request)
  | lookup (id : RegistryId) (keyType : String) (kind : PrimitiveKind)
  | manager (id : RegistryId) (keyType : String)
  | isNewKeyAllowed (id : RegistryId) (keyType : String)
  | createPrimitive (manager : Manager) (crypto : Rsa.CryptoModule) (key : Key)
  | createKey (manager : Manager) (crypto : Rsa.CryptoModule) (format : Jwt.KeyFormat)

namespace Counted

/-- What the caller is given. -/
abbrev Result : Counted → Type
  | register .. => Unit
  | lookup .. => Manager
  | manager .. => Manager
  | isNewKeyAllowed .. => Bool
  | createPrimitive .. => Primitive
  | createKey .. => Jwt.PrivateKey

/-- What a call does. -/
def action : (c : Counted) → Action c.Result
  | register id r => Registry.register id r
  | lookup id keyType kind => Registry.lookup id keyType kind
  | manager id keyType => Registry.manager id keyType
  | isNewKeyAllowed id keyType => Registry.isNewKeyAllowed id keyType
  | createPrimitive m crypto key => m.createPrimitive crypto key
  | createKey m crypto format => m.createKey crypto format

/-- A call that is made, with how it ends. -/
def make (c : Counted) (s : State) : Run.Made Counted :=
  Run.make (fun c => discard c.action) c s

end Counted

/-! ## Scripts -/

/-- An operation with its counted calls marked. -/
inductive Script : Type → Type 1 where
  | call (c : Counted) : Script c.Result
  /-- Makes a registry. -/
  | createUnder (policy : PolicyId) (directory : Directory) : Script RegistryId
  /-- Switches metrics on or off. -/
  | switch (enabled : Bool) : Script Unit
  | aside {α : Type} (x : Action α) (h : Aside x) : Script α
  | bind {α β : Type} (p : Script α) (f : α → Script β) : Script β

namespace Script

instance : Monad Script where
  pure a := .aside (pure a) (.pure a)
  bind := .bind

variable {α β : Type}

/-- What a script does. -/
def action : {α : Type} → Script α → Action α
  | _, call c => c.action
  | _, createUnder policy directory => Registry.createUnder policy directory
  | _, switch enabled => Setup.enableMetrics enabled
  | _, aside x _ => x
  | _, bind p f => p.action >>= fun a => (f a).action

/-- The counted calls that a script makes from a state.  Where it fails, it makes no more. -/
def calls : {α : Type} → Script α → State → List (Run.Made Counted)
  | _, call c, s => [c.make s]
  | _, createUnder _ _, _ => []
  | _, switch _, _ => []
  | _, aside _ _, _ => []
  | _, bind p f, s =>
    p.calls s ++
      match p.action s with
      | (.ok a, t) => (f a).calls t
      | (.error _, _) => []

/-- The state. -/
def get : Script State := .aside MonadState.get .get

/-- A note in the log. -/
def note (severity : Log.Severity) (source : Log.Source) (message : String) : Script Unit :=
  .aside (Action.note severity source message) (.note severity source message)

section Calls

variable {p : Script α} {f : α → Script β} {s t : State}

lemma calls_of_ok {a : α} (h : p.action s = (.ok a, t)) :
    (p >>= f).calls s = p.calls s ++ (f a).calls t := by
  change (p.bind f).calls s = _
  rw [calls, h]

lemma calls_of_error {e : Failure} (h : p.action s = (.error e, t)) :
    (p >>= f).calls s = p.calls s := by
  change (p.bind f).calls s = _
  rw [calls, h]
  exact List.append_nil _

end Calls

lemma action_forM {f : β → Script Unit} {g : β → Action Unit} (h : ∀ b, (f b).action = g b)
    (bs : List β) : (bs.forM f).action = bs.forM g := by
  induction bs with
  | nil => rfl
  | cons b bs ih =>
    change (f b).action >>= (fun _ => (bs.forM f).action) = g b >>= fun _ => bs.forM g
    rw [h, ih]

/-- What counted calls, new registries, switching metrics and all that goes aside keep is kept by a
script. -/
lemma keeps {P : State → Prop} (hcall : ∀ c : Counted, Keeps P c.action)
    (hcreate : ∀ policy directory, Keeps P (Registry.createUnder policy directory))
    (hswitch : ∀ enabled, Keeps P (Setup.enableMetrics enabled))
    (haside : ∀ {s t}, P s → s.Spares t → P t) (p : Script α) : Keeps P p.action := by
  induction p with
  | call c => exact hcall c
  | createUnder policy directory => exact hcreate policy directory
  | switch enabled => exact hswitch enabled
  | aside x h => exact fun s hs => haside hs (h s)
  | bind p f hp hf => exact hp.bind hf

end Script

end Session

end Keyring
