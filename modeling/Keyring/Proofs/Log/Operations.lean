/-
# What operations do to the journal

All that operations do to the journal is to take notes, apart from those whose business the journal
is.  So the loggers are what they were, and every record goes where the loggers send it.

* `Action.OnlyNotes` is said of an action that takes notes and does nothing else to the journal.
* `Session.Errand.sparesLoggers` and `Session.Operation.sparesLoggers` go through all operations:
  whatever does not configure a logger leaves the loggers as they are.
-/
import Keyring.Proofs.Log.Blocks
import Keyring.Proofs.Session.Operations

namespace Keyring

namespace Action

variable {α β : Type}

/-- The action takes notes and does nothing else to the journal. -/
abbrev OnlyNotes (x : Action α) : Prop :=
  x.Notes fun _ _ => True

lemma Notes.onlyNotes {P : Fields → Fields → Prop} {x : Action α} (h : x.Notes P) : x.OnlyNotes :=
  h.mono fun _ _ _ => trivial

lemma onlyNotes_note (severity : Log.Severity) (source : Log.Source) (message : String) :
    (note severity source message).OnlyNotes :=
  .note (fun _ => trivial) severity source message

lemma onlyNotes_get : (get : Action State).OnlyNotes := .of_reads .get

lemma onlyNotes_forM {f : β → Action Unit} (h : ∀ b, (f b).OnlyNotes) (bs : List β) :
    (bs.forM f).OnlyNotes := by
  induction bs with
  | nil => exact .pure ()
  | cons b bs ih => exact (h b).bind fun _ => ih

/-- The loggers are as before, however the action ends. -/
def SparesLoggers (x : Action α) : Prop :=
  ∀ s, (x s).2.journal.tree = s.journal.tree

lemma SparesLoggers.of_reads {x : Action α} (h : x.Reads) : x.SparesLoggers :=
  fun s => congrArg (·.journal.tree) (h s)

lemma Notes.sparesLoggers {P : Fields → Fields → Prop} {x : Action α} (h : x.Notes P) :
    x.SparesLoggers :=
  fun s => (h s).tree_eq

/-- What comes after an action and spares the loggers leaves them as the action does. -/
lemma tree_bind {f : α → Action β} (h : ∀ a, (f a).SparesLoggers) (x : Action α) (s : State) :
    ((x >>= f) s).2.journal.tree = (x s).2.journal.tree := by
  rcases hrun : x s with ⟨_ | a, t⟩
  · rw [bind_of_error hrun]
  · rw [bind_of_ok hrun]
    exact h a t

lemma SparesLoggers.discard {x : Action α} (h : x.SparesLoggers) :
    (discard x : Action Unit).SparesLoggers := fun s => by
  rw [discard_apply]
  exact h s

end Action

open Keyring.Action (onlyNotes_note onlyNotes_get onlyNotes_forM)

/-! ## Registries -/

namespace Registry

lemma onlyNotes_register (id : RegistryId) (r : Directory.Request) : (register id r).OnlyNotes :=
  (notes_register id r).onlyNotes

lemma onlyNotes_restrict (id : RegistryId) : (restrict id).OnlyNotes := by
  refine .get_bind fun s => ?_
  cases (s.policyOf id).restricted with
  | true => exact .of_journal rfl
  | false =>
    simp only [Bool.false_eq_true, if_false]
    cases Directory.restrict (s.policyOf id) (s.directory id) with
    | error _ => exact .of_journal rfl
    | ok policy =>
      have hrestricted : Noted (fun _ => True) s (s.setPolicy (s.registry id).policy policy) :=
        .of_journal rfl
      exact hrestricted.trans
        (onlyNotes_note .info .registry "key manager registry restricted to FIPS" _)

lemma onlyNotes_entry (id : RegistryId) (keyType : String) : (entry id keyType).OnlyNotes := by
  refine onlyNotes_get.bind fun s => ?_
  cases (s.directory id).find? keyType with
  | some entry => exact .pure entry
  | none => exact (Action.Notes.count _).bind fun _ => .refuse _ _

lemma onlyNotes_manager (id : RegistryId) (keyType : String) : (manager id keyType).OnlyNotes :=
  (onlyNotes_entry id keyType).bind fun _ => .pure _

lemma onlyNotes_isNewKeyAllowed (id : RegistryId) (keyType : String) :
    (isNewKeyAllowed id keyType).OnlyNotes :=
  (onlyNotes_entry id keyType).bind fun _ => .pure _

lemma onlyNotes_lookup (id : RegistryId) (keyType : String) (kind : PrimitiveKind) :
    (lookup id keyType kind).OnlyNotes := by
  refine (onlyNotes_entry id keyType).bind fun entry => ?_
  cases entry.supports kind with
  | true => exact (Action.Notes.count _).bind fun _ => .pure _
  | false => exact (Action.Notes.count _).bind fun _ => .refuse _ _

end Registry

/-! ## Managers -/

namespace Manager

variable (m : Manager) (crypto : Rsa.CryptoModule)

lemma onlyNotes_newJwtSigner (policy : PolicyId) : (newJwtSigner policy).OnlyNotes :=
  fun _ => .of_journal rfl

lemma onlyNotes_createPrimitive (key : Key) : (m.createPrimitive crypto key).OnlyNotes :=
  (m.notes_createPrimitive crypto key).onlyNotes

lemma onlyNotes_createKey (format : Jwt.KeyFormat) : (m.createKey crypto format).OnlyNotes := by
  cases m with
  | jwtSigner _ _ =>
    exact (Action.Notes.ofExcept _).bind fun _ => (Action.Notes.count _).bind fun _ => .pure _
  | external _ _ => exact .throw _

lemma onlyNotes_primitive (b : Bytes) : (m.primitive crypto b).OnlyNotes :=
  (Action.Notes.of_reads (m.reads_parseKey b)).bind fun key =>
    (Action.Notes.of_reads (m.reads_checkKey key)).bind fun _ =>
      m.onlyNotes_createPrimitive crypto key

lemma onlyNotes_newKeyData (b : Bytes) : (m.newKeyData crypto b).OnlyNotes :=
  (Action.Notes.of_reads (m.reads_parseFormat b)).bind fun format =>
    (Action.Notes.of_reads (m.reads_checkFormat format)).bind fun _ =>
      (m.onlyNotes_createKey crypto format).bind fun _ => .pure _

end Manager

/-! ## Templates and signing keys -/

lemma Templates.onlyNotes_putAll (id : TemplatesId) (values : List (String × Jwt.Template)) :
    (putAll id values).OnlyNotes := by
  refine .get_bind fun s => ?_
  cases hput : (s.templates id).putAll values with
  | error e => exact .of_journal rfl
  | ok table =>
    have hset : Noted (fun _ => True) s (s.setTemplates id table) := .of_journal rfl
    exact hset.trans (onlyNotes_note .debug .parameters
      s!"merged {values.length} named parameter sets" _)

namespace SigningKeys

lemma onlyNotes_create (crypto : Rsa.CryptoModule) (registry : RegistryId)
    (template : Jwt.Template) (customKid : Option Jwt.OfferedKid) :
    (create crypto registry template customKid).OnlyNotes := by
  refine (Registry.onlyNotes_lookup _ _ _).bind fun manager =>
    (Registry.onlyNotes_isNewKeyAllowed _ _).bind fun allowed => ?_
  have hrest : Action.OnlyNotes (do
      Action.ofKey (checkCustomKid template.kidStrategy customKid)
      let format ← Action.ofExcept (template.toKeyFormat manager.version)
      manager.checkFormat format
      let key ← manager.createKey crypto format
      Action.ofExcept (key.label customKid)) :=
    (Action.Notes.ofKey _).bind fun _ => (Action.Notes.ofExcept _).bind fun format =>
      (Action.Notes.of_reads (manager.reads_checkFormat format)).bind fun _ =>
        (manager.onlyNotes_createKey crypto format).bind fun _ => .ofExcept _
  cases allowed with
  | true => exact hrest
  | false => exact (Action.Notes.refuse _ _).bind fun _ => hrest

lemma onlyNotes_register (registry : RegistryId) (templates : TemplatesId) (newKeyAllowed : Bool) :
    (register registry templates newKeyAllowed).OnlyNotes :=
  onlyNotes_get.bind fun _ => (Manager.onlyNotes_newJwtSigner _).bind fun _ =>
    (Registry.onlyNotes_register _ _).bind fun _ =>
      (Templates.onlyNotes_putAll _ _).bind fun _ => .pure _

end SigningKeys

/-! ## Settings and contexts -/

namespace Settings

lemma onlyNotes_loadFromHost : loadFromHost.OnlyNotes := by
  refine onlyNotes_get.bind fun s => (Action.Notes.ofExcept _).bind fun loaded => ?_
  dsimp only
  split
  · exact (onlyNotes_note _ _ _).bind fun _ => .pure _
  · exact .pure _

lemma onlyNotes_revise (s : Settings) (overrides : Fields) : (s.revise overrides).OnlyNotes :=
  (onlyNotes_forM (fun _ => onlyNotes_note _ _ _) _).bind fun _ => .ofExcept _

lemma onlyNotes_reload (s : Settings) : s.reload.OnlyNotes :=
  onlyNotes_loadFromHost.bind fun fresh => s.onlyNotes_revise fresh.toFields

end Settings

namespace Context

variable (id : ContextId)

lemma onlyNotes_bootstrap : (bootstrap id).OnlyNotes := by
  refine onlyNotes_get.bind fun s => ?_
  dsimp only
  have hready : ∀ c : Context, Action.OnlyNotes (do
      let s ← get
      let restricted := FipsPolicy.truth (s.policy c.policy).restricted
      let keyTypes := (s.directory c.registry).keyTypes.length
      let templates := (s.templates c.templates).size
      Action.note .info .context
        (s!"keycore context ready (fips_only={restricted}, key_types={keyTypes}, "
          ++ s!"templates={templates})")) :=
    fun c => onlyNotes_get.bind fun _ => onlyNotes_note _ _ _
  have hfill : ∀ (allowed : Bool) (c : Context),
      (discard (SigningKeys.register c.registry c.templates allowed) : Action Unit).OnlyNotes :=
    fun allowed c => (SigningKeys.onlyNotes_register _ _ allowed).discard
  cases (s.context id).settings.fipsOnly <;> cases (s.context id).settings.registerJwtRsa
  · exact hready _
  · exact (hfill _ _).bind fun _ => hready _
  · exact (Registry.onlyNotes_restrict _).bind fun _ => hready _
  · exact (Registry.onlyNotes_restrict _).bind fun _ => (hfill _ _).bind fun _ => hready _

lemma onlyNotes_create (settings : Settings) (fill : Bool) : (create settings fill).OnlyNotes := by
  have hmade : ∀ s : State, Noted (fun _ => True) s (made settings s) := fun _ => .of_journal rfl
  have hfill : ∀ id, (if fill then bootstrap id else pure ()).OnlyNotes := by
    intro id
    split
    · exact onlyNotes_bootstrap id
    · exact .pure ()
  intro s
  rw [create_apply]
  exact (hmade s).trans (((hfill _).bind fun _ => .pure _) _)

lemma onlyNotes_disallowNewKeys (registry : RegistryId) (keyType : String) :
    (disallowNewKeys registry keyType).OnlyNotes := by
  refine (Registry.onlyNotes_isNewKeyAllowed _ _).bind fun allowed => ?_
  cases allowed with
  | true =>
    exact (Registry.onlyNotes_manager _ _).bind fun _ => (Registry.onlyNotes_register _ _).bind
      fun _ => onlyNotes_note _ _ _
  | false => exact .pure _

lemma onlyNotes_apply (settings : Settings) : (apply id settings).OnlyNotes := by
  refine onlyNotes_get.bind fun s => ?_
  have hall : ∀ registry (keyTypes : List String),
      (keyTypes.forM (disallowNewKeys registry)).OnlyNotes :=
    fun registry => onlyNotes_forM (onlyNotes_disallowNewKeys registry)
  dsimp only
  cases settings.newKeyAllowed <;>
    cases settings.fipsOnly && !(s.policy (s.context id).policy).restricted
  · exact onlyNotes_get.bind fun _ => hall _ _
  · exact (Registry.onlyNotes_restrict _).bind fun _ => onlyNotes_get.bind fun _ => hall _ _
  · exact .pure _
  · exact (Registry.onlyNotes_restrict _).bind fun _ => .pure _

lemma Revision.onlyNotes_change (r : Revision) (settings : Settings) :
    (r.change settings).OnlyNotes := by
  cases r with
  | update overrides => exact settings.onlyNotes_revise overrides
  | refresh => exact settings.onlyNotes_reload

lemma Revision.onlyNotes_action (r : Revision) : (r.action id).OnlyNotes := by
  have hset : ∀ settings,
      (modify fun s => s.setContextSettings id settings : Action Unit).OnlyNotes :=
    fun _ => .of_modify fun _ => rfl
  rw [r.action_eq]
  exact onlyNotes_get.bind fun s => (r.onlyNotes_change _).bind fun settings =>
    (hset settings).bind fun _ => (onlyNotes_apply id settings).bind fun _ => .pure _

end Context

/-! ## Operations of a session -/

/-- Logging writes lines only. -/
lemma Setup.sparesLoggers_log (logger : String) (statement : Log.Statement) :
    (log logger statement).SparesLoggers := by
  intro s
  have hwritten : ∀ j, s.journal.log logger statement = .ok j → j.tree = s.journal.tree := by
    intro j hj
    rw [Log.Journal.log] at hj
    split at hj
    · cases hj
      rfl
    · split at hj
      · cases hj
      · cases hj
        rfl
  rw [log, Action.bind_of_ok (Action.get_apply s)]
  cases hlog : s.journal.log logger statement with
  | error e => rfl
  | ok j => exact hwritten j hlog

namespace Session

lemma Counted.onlyNotes_action (c : Counted) : c.action.OnlyNotes := by
  cases c with
  | register id r => exact Registry.onlyNotes_register id r
  | lookup id keyType kind => exact Registry.onlyNotes_lookup id keyType kind
  | manager id keyType => exact Registry.onlyNotes_manager id keyType
  | isNewKeyAllowed id keyType => exact Registry.onlyNotes_isNewKeyAllowed id keyType
  | createPrimitive m crypto key => exact m.onlyNotes_createPrimitive crypto key
  | createKey m crypto format => exact m.onlyNotes_createKey crypto format

/-- Every errand but the configuring of a logger leaves the loggers as they are. -/
lemma Errand.sparesLoggers {e : Errand}
    (h : ∀ level json includeStack logger, e ≠ .configureLogging level json includeStack logger) :
    e.action.SparesLoggers := by
  have hhold : ∀ (id : HolderId) (settings : Settings), Action.OnlyNotes (do
      modify fun s => s.setHeld id settings
      pure settings) := fun _ _ _ => .of_journal rfl
  cases e with
  | createPolicy _ | restrictPolicy _ | isRegistered _ _ | bring _ | newJwtSigner _
  | createTemplates _ | changeHost _ | forgetContext | bindLog _ | rebindLog _ =>
    exact fun _ => rfl
  | restrict id => exact (Registry.onlyNotes_restrict id).sparesLoggers
  | parseKey m b => exact (Action.SparesLoggers.of_reads (m.reads_parseKey b)).discard
  | checkKey m key => exact .of_reads (m.reads_checkKey key)
  | parseFormat m b => exact (Action.SparesLoggers.of_reads (m.reads_parseFormat b)).discard
  | checkFormat m format => exact .of_reads (m.reads_checkFormat format)
  | publicKey m key => exact (Action.SparesLoggers.of_reads (m.reads_publicKey key)).discard
  | publicKeyData m b => exact (Action.SparesLoggers.of_reads (m.reads_publicKeyData b)).discard
  | putTemplates id values => exact (Templates.onlyNotes_putAll id values).sparesLoggers
  | getTemplate id name => exact (onlyNotes_get.bind fun _ => .ofKey _).sparesLoggers.discard
  | loadSettings => exact Settings.onlyNotes_loadFromHost.sparesLoggers.discard
  | createHolder initial? =>
    have hinitial : (initial?.elim Settings.loadFromHost pure).OnlyNotes := by
      cases initial? with
      | none => exact Settings.onlyNotes_loadFromHost
      | some settings => exact .pure settings
    have hadd : ∀ settings, Action.OnlyNotes (do
        let s ← get
        set { s with holders := s.holders.add settings }
        pure (⟨s.holders.next⟩ : HolderId)) := fun _ _ => .of_journal rfl
    exact (hinitial.bind hadd).sparesLoggers.discard
  | setHolder id overrides =>
    exact (onlyNotes_get.bind fun s => ((s.held id).onlyNotes_revise overrides).bind
      (hhold id)).sparesLoggers.discard
  | refreshHolder id =>
    exact (onlyNotes_get.bind fun s => (s.held id).onlyNotes_reload.bind
      (hhold id)).sparesLoggers.discard
  | configureLogging level json includeStack logger => exact absurd rfl (h _ _ _ _)
  | log logger statement => exact Setup.sparesLoggers_log logger statement

/-- Every operation but the configuring of a logger and the asking for the context of the process
leaves the loggers as they are. -/
lemma Operation.sparesLoggers {o : Operation}
    (h : ∀ level json includeStack logger,
      o ≠ .errand (.configureLogging level json includeStack logger))
    (hcontext : o ≠ .context) : o.action.SparesLoggers := by
  cases o with
  | errand e => exact Errand.sparesLoggers fun _ _ _ _ he => h _ _ _ _ (congrArg _ he)
  | call c => exact c.onlyNotes_action.sparesLoggers.discard
  | enableMetrics _ | createRegistry _ | createUnder _ _ | copy _ _ => exact fun _ => rfl
  | primitive m crypto b => exact (m.onlyNotes_primitive crypto b).sparesLoggers.discard
  | newKeyData m crypto b => exact (m.onlyNotes_newKeyData crypto b).sparesLoggers.discard
  | signingKey crypto registry template customKid =>
    exact (SigningKeys.onlyNotes_create crypto registry template customKid).sparesLoggers.discard
  | populate registry templates newKeyAllowed =>
    exact (SigningKeys.onlyNotes_register registry templates newKeyAllowed).sparesLoggers.discard
  | createContext settings fill =>
    exact (Context.onlyNotes_create settings fill).sparesLoggers.discard
  | bootstrap id => exact (Context.onlyNotes_bootstrap id).sparesLoggers
  | revise id revision => exact (revision.onlyNotes_action id).sparesLoggers.discard
  | context => exact absurd rfl hcontext

end Session

end Keyring
