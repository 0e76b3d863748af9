/-
# What clients can do

* `Session.Errand` lists the operations that leave registries and metrics alone, by
  `Session.Errand.aside_action`.
* `Session.Operation` lists these and all others but the emptying of a registry; with that they are
  the calls of a session, `Session.Call`.
* `Operation.script` marks the counted calls in every operation, and `Operation.action_script` says
  that nothing else is changed by this.
-/
import Keyring.Proofs.Context.Keeping
import Keyring.Proofs.Manager.Operations
import Keyring.Proofs.Session.Script

namespace Keyring.Session

open Keyring.Action (Keeps)

/-! ## Operations that are not counted -/

namespace Aside

lemma createPolicy (policy : FipsPolicy) : Aside policy.create := fun _ => ⟨rfl, rfl⟩

lemma restrict (id : RegistryId) : Aside (Registry.restrict id) := get_bind fun s => by
  cases (s.policyOf id).restricted with
  | true => exact ⟨rfl, rfl⟩
  | false =>
    simp only [Bool.false_eq_true, if_false]
    cases Directory.restrict (s.policyOf id) (s.directory id) <;> exact ⟨rfl, rfl⟩

lemma bring (m : ExternalManager) : Aside (Manager.bring m) := fun _ => ⟨rfl, rfl⟩

lemma newJwtSigner (policy : PolicyId) : Aside (Manager.newJwtSigner policy) := fun _ => ⟨rfl, rfl⟩

lemma parseKey (m : Manager) (b : Bytes) : Aside (m.parseKey b) :=
  of_reads (m.reads_parseKey b)

lemma checkKey (m : Manager) (key : Key) : Aside (m.checkKey key) :=
  of_reads (m.reads_checkKey key)

lemma parseFormat (m : Manager) (b : Bytes) : Aside (m.parseFormat b) :=
  of_reads (m.reads_parseFormat b)

lemma checkFormat (m : Manager) (format : Jwt.KeyFormat) : Aside (m.checkFormat format) :=
  of_reads (m.reads_checkFormat format)

lemma publicKey (m : Manager) (key : Key) : Aside (m.publicKey key) :=
  of_reads (m.reads_publicKey key)

lemma publicKeyData (m : Manager) (b : Bytes) : Aside (m.publicKeyData b) :=
  of_reads (m.reads_publicKeyData b)

lemma createTemplates (source? : Option TemplatesId) : Aside (Templates.create source?) :=
  fun _ => ⟨rfl, rfl⟩

lemma putAll (id : TemplatesId) (values : List (String × Jwt.Template)) :
    Aside (Templates.putAll id values) := get_bind fun s => by
  cases (s.templates id).putAll values <;> exact ⟨rfl, rfl⟩

lemma loadFromHost : Aside Settings.loadFromHost := by
  refine get.bind fun s => (ofExcept _).bind fun loaded => ?_
  dsimp only
  split
  · exact (note _ _ _).bind fun _ => pure _
  · exact pure _

lemma revise (settings : Settings) (overrides : Fields) : Aside (settings.revise overrides) :=
  (forM (fun _ => note _ _ _) _).bind fun _ => ofExcept _

lemma change (r : Context.Revision) (settings : Settings) : Aside (r.change settings) := by
  cases r with
  | update overrides => exact revise settings overrides
  | refresh => exact loadFromHost.bind fun fresh => revise settings fresh.toFields

lemma configureLogging (level : Option String) (json : Bool) (includeStack : Option Bool)
    (logger : Option String) : Aside (Setup.configureLogging level json includeStack logger) :=
  get_bind_ofExcept fun _ _ => ⟨rfl, rfl⟩

/-- A holder takes settings. -/
lemma hold (id : HolderId) (settings : Settings) :
    Aside (do
      modify fun s => s.setHeld id settings
      Pure.pure settings) := fun _ => ⟨rfl, rfl⟩

end Aside

/-- An operation that leaves registries and metrics alone. -/
inductive Errand where
  /-- Makes a policy. -/
  | createPolicy (policy : FipsPolicy)
  /-- Restricts a policy directly. -/
  | restrictPolicy (id : PolicyId)
  | restrict (id : RegistryId)
  | isRegistered (id : RegistryId) (keyType : String)
  /-- Brings a manager of the client's own. -/
  | bring (manager : ExternalManager)
  | newJwtSigner (policy : PolicyId)
  | parseKey (manager : Manager) (b : Bytes)
  | checkKey (manager : Manager) (key : Key)
  | parseFormat (manager : Manager) (b : Bytes)
  | checkFormat (manager : Manager) (format : Jwt.KeyFormat)
  | publicKey (manager : Manager) (key : Key)
  | publicKeyData (manager : Manager) (b : Bytes)
  | createTemplates (source? : Option TemplatesId)
  | putTemplates (id : TemplatesId) (values : List (String × Jwt.Template))
  | getTemplate (id : TemplatesId) (name : String)
  | loadSettings
  | createHolder (initial? : Option Settings)
  | setHolder (id : HolderId) (overrides : Fields)
  | refreshHolder (id : HolderId)
  /-- Other variables are set and other files are there. -/
  | changeHost (host : Host)
  | forgetContext
  | configureLogging (level : Option String) (json : Bool) (includeStack : Option Bool)
      (logger : Option String)
  | log (logger : String) (statement : Log.Statement)
  /-- Binds further log fields. -/
  | bindLog (fields : Fields)
  /-- Binds these log fields and no others. -/
  | rebindLog (fields : Fields)

namespace Errand

/-- What an errand does. -/
def action : Errand → Action Unit
  | createPolicy policy => discard policy.create
  | restrictPolicy id => modify fun s => s.setPolicy id (s.policy id).restrict
  | restrict id => Registry.restrict id
  | isRegistered id keyType => discard (Registry.isRegistered id keyType)
  | bring m => discard (Manager.bring m)
  | newJwtSigner policy => discard (Manager.newJwtSigner policy)
  | parseKey m b => discard (m.parseKey b)
  | checkKey m key => m.checkKey key
  | parseFormat m b => discard (m.parseFormat b)
  | checkFormat m format => m.checkFormat format
  | publicKey m key => discard (m.publicKey key)
  | publicKeyData m b => discard (m.publicKeyData b)
  | createTemplates source? => discard (Templates.create source?)
  | putTemplates id values => Templates.putAll id values
  | getTemplate id name => discard (Templates.get id name)
  | loadSettings => discard Settings.loadFromHost
  | createHolder initial? => discard (Holder.create initial?)
  | setHolder id overrides => discard (Holder.set id overrides)
  | refreshHolder id => discard (Holder.refresh id)
  | changeHost host => modify fun s => { s with host }
  | forgetContext => Setup.forgetContext
  | configureLogging level json includeStack logger =>
    Setup.configureLogging level json includeStack logger
  | log logger statement => Setup.log logger statement
  | bindLog fields => modify fun s => { s with journal := s.journal.bind fields }
  | rebindLog fields => modify fun s => { s with journal := s.journal.rebind fields }

open Aside in
/-- Errands leave registries and metrics alone. -/
lemma aside_action (e : Errand) : Aside e.action := by
  cases e with
  | createPolicy policy => exact (Aside.createPolicy policy).discard
  | restrictPolicy _ | changeHost _ | forgetContext | bindLog _ | rebindLog _ =>
    exact .of_modify fun _ => ⟨rfl, rfl⟩
  | restrict id => exact Aside.restrict id
  | isRegistered id keyType => exact fun _ => ⟨rfl, rfl⟩
  | bring m => exact (Aside.bring m).discard
  | newJwtSigner policy => exact (Aside.newJwtSigner policy).discard
  | parseKey m b => exact (Aside.parseKey m b).discard
  | checkKey m key => exact Aside.checkKey m key
  | parseFormat m b => exact (Aside.parseFormat m b).discard
  | checkFormat m format => exact Aside.checkFormat m format
  | publicKey m key => exact (Aside.publicKey m key).discard
  | publicKeyData m b => exact (Aside.publicKeyData m b).discard
  | createTemplates source? => exact (Aside.createTemplates source?).discard
  | putTemplates id values => exact Aside.putAll id values
  | getTemplate id name => exact (get.bind fun _ => ofKey _).discard
  | loadSettings => exact loadFromHost.discard
  | createHolder initial? =>
    refine Aside.discard (.bind ?_ fun settings => get_bind fun _ => ⟨rfl, rfl⟩)
    cases initial? with
    | none => exact loadFromHost
    | some settings => exact pure settings
  | setHolder id overrides =>
    exact (get.bind fun s => (revise (s.held id) overrides).bind (hold id)).discard
  | refreshHolder id =>
    exact (get.bind fun s => (change .refresh (s.held id)).bind (hold id)).discard
  | configureLogging level json includeStack logger => exact Aside.configureLogging _ _ _ _
  | log logger statement =>
    exact get_bind_ofExcept fun _ _ => ⟨rfl, rfl⟩

end Errand

/-! ## Operations with counted calls on their way -/

namespace Script

variable {registry : RegistryId} {id : ContextId}

/-- Makes an empty registry under a new policy. -/
def createRegistry (policy : FipsPolicy) : Script RegistryId := do
  createUnder (← aside policy.create (.createPolicy policy)) {}

/-- Makes a registry under a policy, empty or with the managers of another one. -/
def createFrom (policy : PolicyId) (source? : Option RegistryId) : Script RegistryId := do
  let s ← get
  createUnder policy ((source?.map s.directory).getD {})

/-- Copies a registry. -/
def copy (source : RegistryId) (policy? : Option FipsPolicy) : Script RegistryId := do
  let s ← get
  let policy ← aside (policy?.getD (s.policyOf source)).create (.createPolicy _)
  createUnder policy (s.directory source)

/-- Reads and checks a key and makes a primitive from it. -/
def primitive (m : Manager) (crypto : Rsa.CryptoModule) (b : Bytes) : Script Primitive := do
  let key ← aside (m.parseKey b) (.parseKey m b)
  aside (m.checkKey key) (.checkKey m key)
  call (.createPrimitive m crypto key)

/-- Reads and checks a key format and makes a key for it. -/
def newKeyData (m : Manager) (crypto : Rsa.CryptoModule) (b : Bytes) : Script KeyData := do
  let format ← aside (m.parseFormat b) (.parseFormat m b)
  aside (m.checkFormat format) (.checkFormat m format)
  let key ← call (.createKey m crypto format)
  pure { typeUrl := m.keyType, value := key.encode, material := m.material }

/-- Makes a signing key for a template. -/
def signingKey (crypto : Rsa.CryptoModule) (registry : RegistryId) (template : Jwt.Template)
    (customKid : Option Jwt.OfferedKid) : Script Jwt.PrivateKey := do
  let manager ← call (.lookup registry Jwt.privateKeyType .jwtPublicKeySign)
  if !(← call (.isNewKeyAllowed registry Jwt.privateKeyType)) then
    aside (Action.refuse (.newKeysDisallowed Jwt.privateKeyType) Jwt.privateKeyType) (.throw _)
  aside (Action.ofKey (SigningKeys.checkCustomKid template.kidStrategy customKid)) (.ofKey _)
  let format ← aside (Action.ofExcept (template.toKeyFormat manager.version)) (.ofExcept _)
  aside (manager.checkFormat format) (.checkFormat manager format)
  let key ← call (.createKey manager crypto format)
  aside (Action.ofExcept (key.label customKid)) (.ofExcept _)

/-- Registers a new manager of signing keys and puts the templates. -/
def populate (registry : RegistryId) (templates : TemplatesId) (newKeyAllowed : Bool) :
    Script Manager := do
  let s ← get
  let manager ← aside (Manager.newJwtSigner (s.registry registry).policy) (.newJwtSigner _)
  call (.register registry { manager, declared := manager.fipsStatus, newKeyAllowed })
  aside (Templates.putAll templates Jwt.Template.named) (.putAll _ _)
  pure manager

/-- Disallows new keys of a key type for which they are allowed. -/
def disallowNewKeys (registry : RegistryId) (keyType : String) : Script Unit := do
  if ← call (.isNewKeyAllowed registry keyType) then
    let manager ← call (.manager registry keyType)
    call (.register registry { manager, declared := manager.fipsStatus, newKeyAllowed := false })
    note .info .context s!"new keys disabled for {keyType}"

/-- Carries settings into the registry of a context. -/
def apply (id : ContextId) (settings : Settings) : Script Unit := do
  let s ← get
  let c := s.context id
  if settings.fipsOnly && !(s.policy c.policy).restricted then
    aside (Registry.restrict c.registry) (.restrict _)
  if !settings.newKeyAllowed then
    let keyTypes := ((← get).directory c.registry).keyTypes.mergeSort fun a b => a ≤ b
    keyTypes.forM (disallowNewKeys c.registry)

/-- Revises the settings of a context. -/
def revise (id : ContextId) (r : Context.Revision) : Script Settings := do
  let s ← get
  let settings ← aside (r.change (s.context id).settings) (.change r _)
  aside (modify fun s => s.setContextSettings id settings) (.of_modify fun _ => ⟨rfl, rfl⟩)
  apply id settings
  pure settings

/-- Fills the registry of a context as its settings ask. -/
def bootstrap (id : ContextId) : Script Unit := do
  let s ← get
  let c := s.context id
  if c.settings.fipsOnly then aside (Registry.restrict c.registry) (.restrict _)
  if c.settings.registerJwtRsa then
    discard <| populate c.registry c.templates c.settings.newKeyAllowed
  let s ← get
  let restricted := FipsPolicy.truth (s.policy c.policy).restricted
  let keyTypes := (s.directory c.registry).keyTypes.length
  let templates := (s.templates c.templates).size
  note .info .context
    (s!"keycore context ready (fips_only={restricted}, key_types={keyTypes}, "
      ++ s!"templates={templates})")

/-- Adds a context. -/
def addContext (c : Context) : Action ContextId := do
  let s ← MonadState.get
  set { s with contexts := s.contexts.add c }
  pure ⟨s.contexts.next⟩

/-- Makes a context. -/
def createContext (settings : Settings) (fill : Bool) : Script ContextId := do
  let policy ← aside (FipsPolicy.create { moduleAvailable := settings.fipsModuleAvailable })
    (.createPolicy _)
  let registry ← createUnder policy {}
  let templates ← aside Templates.create (.createTemplates none)
  let id ← aside (addContext { settings, policy, registry, templates })
    (.get_bind fun _ => ⟨rfl, rfl⟩)
  if fill then bootstrap id
  pure id

/-- The context of the process. -/
def context : Script ContextId := do
  match (← get).defaultContext? with
  | some id => pure id
  | none =>
    let settings ← aside Settings.loadFromHost .loadFromHost
    aside (Setup.configureLogging settings.logLevel settings.logJson none "keycore")
      (.configureLogging _ _ _ _)
    switch settings.metricsEnabled
    let id ← createContext settings true
    aside (modify fun s => { s with defaultContext? := some id }) (.of_modify fun _ => ⟨rfl, rfl⟩)
    pure id

/-! ## Scripts do what operations do -/

lemma action_signingKey (crypto : Rsa.CryptoModule) (registry : RegistryId)
    (template : Jwt.Template) (customKid : Option Jwt.OfferedKid) :
    (signingKey crypto registry template customKid).action
      = SigningKeys.create crypto registry template customKid := by
  refine bind_congr fun manager => bind_congr fun allowed => ?_
  cases allowed <;> rfl

lemma action_disallowNewKeys (registry : RegistryId) (keyType : String) :
    (disallowNewKeys registry keyType).action = Context.disallowNewKeys registry keyType := by
  refine bind_congr fun allowed => ?_
  cases allowed <;> rfl

lemma action_apply (id : ContextId) (settings : Settings) :
    (apply id settings).action = Context.apply id settings := by
  have hall : ∀ registry (keyTypes : List String), (keyTypes.forM (disallowNewKeys registry)).action
      = keyTypes.forM (Context.disallowNewKeys registry) :=
    fun registry => action_forM (action_disallowNewKeys registry)
  refine bind_congr fun s => ?_
  dsimp only
  cases settings.newKeyAllowed <;>
    cases settings.fipsOnly && !(s.policy (s.context id).policy).restricted
  · exact bind_congr fun _ => hall _ _
  · exact bind_congr fun _ => bind_congr fun _ => hall _ _
  · rfl
  · rfl

lemma action_revise (id : ContextId) (r : Context.Revision) :
    (revise id r).action = r.action id := by
  rw [r.action_eq]
  refine bind_congr fun s => bind_congr fun settings => bind_congr fun _ => ?_
  rw [← action_apply]
  rfl

lemma action_bootstrap (id : ContextId) : (bootstrap id).action = Context.bootstrap id := by
  refine bind_congr fun s => ?_
  dsimp only
  cases (s.context id).settings.fipsOnly <;> cases (s.context id).settings.registerJwtRsa <;> rfl

lemma action_createContext (settings : Settings) (fill : Bool) :
    (createContext settings fill).action = Context.create settings fill := by
  funext s
  rw [Context.create_apply]
  cases fill with
  | true =>
    rw [← action_bootstrap]
    rfl
  | false => rfl

lemma action_context : context.action = Setup.context := by
  refine bind_congr fun s => ?_
  dsimp only
  cases s.defaultContext? with
  | some id => rfl
  | none =>
    refine bind_congr fun settings => bind_congr fun _ => bind_congr fun _ => ?_
    rw [← action_createContext]
    rfl

end Script

/-! ## Operations and calls -/

/-- What a client can do, but for emptying a registry. -/
inductive Operation where
  | errand (e : Errand)
  /-- Makes a counted call directly. -/
  | call (c : Counted)
  /-- Switches metrics on or off. -/
  | enableMetrics (enabled : Bool)
  | createRegistry (policy : FipsPolicy)
  /-- Makes a registry under a policy that is there, empty or with the managers of another one. -/
  | createUnder (policy : PolicyId) (source? : Option RegistryId)
  | copy (source : RegistryId) (policy? : Option FipsPolicy)
  | primitive (manager : Manager) (crypto : Rsa.CryptoModule) (b : Bytes)
  | newKeyData (manager : Manager) (crypto : Rsa.CryptoModule) (b : Bytes)
  | signingKey (crypto : Rsa.CryptoModule) (registry : RegistryId) (template : Jwt.Template)
      (customKid : Option Jwt.OfferedKid)
  | populate (registry : RegistryId) (templates : TemplatesId) (newKeyAllowed : Bool)
  | createContext (settings : Settings) (fill : Bool)
  | bootstrap (id : ContextId)
  | revise (id : ContextId) (revision : Context.Revision)
  /-- Asks for the context of the process. -/
  | context

namespace Operation

/-- What an operation does. -/
def action : Operation → Action Unit
  | errand e => e.action
  | call c => discard c.action
  | enableMetrics enabled => Setup.enableMetrics enabled
  | createRegistry policy => discard (Registry.create policy)
  | createUnder policy source? => discard do
    let s ← get
    Registry.createUnder policy ((source?.map s.directory).getD {})
  | copy source policy? => discard (Registry.copy source policy?)
  | primitive m crypto b => discard (m.primitive crypto b)
  | newKeyData m crypto b => discard (m.newKeyData crypto b)
  | signingKey crypto registry template customKid =>
    discard (SigningKeys.create crypto registry template customKid)
  | populate registry templates newKeyAllowed =>
    discard (SigningKeys.register registry templates newKeyAllowed)
  | createContext settings fill => discard (Context.create settings fill)
  | bootstrap id => Context.bootstrap id
  | revise id revision => discard (revision.action id)
  | context => discard Setup.context

/-- An operation with its counted calls marked. -/
def script : Operation → Script Unit
  | errand e => .aside e.action e.aside_action
  | call c => discard (.call c)
  | enableMetrics enabled => .switch enabled
  | createRegistry policy => discard (.createRegistry policy)
  | createUnder policy source? => discard (.createFrom policy source?)
  | copy source policy? => discard (.copy source policy?)
  | primitive m crypto b => discard (.primitive m crypto b)
  | newKeyData m crypto b => discard (.newKeyData m crypto b)
  | signingKey crypto registry template customKid =>
    discard (.signingKey crypto registry template customKid)
  | populate registry templates newKeyAllowed =>
    discard (.populate registry templates newKeyAllowed)
  | createContext settings fill => discard (.createContext settings fill)
  | bootstrap id => .bootstrap id
  | revise id revision => discard (.revise id revision)
  | context => discard .context

/-- The script of an operation does what the operation does. -/
lemma action_script (o : Operation) : o.script.action = o.action := by
  cases o with
  | errand e => rfl
  | call c => rfl
  | enableMetrics enabled => rfl
  | createRegistry policy => rfl
  | createUnder policy source? => rfl
  | copy source policy? => rfl
  | primitive m crypto b => rfl
  | newKeyData m crypto b => rfl
  | populate registry templates newKeyAllowed => rfl
  | signingKey crypto registry template customKid =>
    rw [action, ← Script.action_signingKey]
    rfl
  | createContext settings fill =>
    rw [action, ← Script.action_createContext]
    rfl
  | bootstrap id => exact Script.action_bootstrap id
  | revise id revision =>
    rw [action, ← Script.action_revise]
    rfl
  | context =>
    rw [action, ← Script.action_context]
    rfl

/-- What counted calls, new registries, switching metrics and errands keep is kept by an
operation. -/
lemma keeps {P : State → Prop} (hcall : ∀ c : Counted, Keeps P c.action)
    (hcreate : ∀ policy directory, Keeps P (Registry.createUnder policy directory))
    (hswitch : ∀ enabled, Keeps P (Setup.enableMetrics enabled))
    (haside : ∀ {s t : State}, P s → s.Spares t → P t) (o : Operation) : Keeps P o.action := by
  rw [← o.action_script]
  exact o.script.keeps hcall hcreate hswitch haside

end Operation

/-- A call of a session. -/
inductive Call where
  | operation (o : Operation)
  /-- Empties a registry. -/
  | reset (id : RegistryId)

namespace Call

/-- What a call does. -/
def action : Call → Action Unit
  | operation o => o.action
  | reset id => Registry.reset id

/-- A call with its counted calls marked: emptying a registry makes none. -/
def counted (s : State) : Call → List (Run.Made Counted)
  | operation o => o.script.calls s
  | reset _ => []

end Call

/-- The counted calls of a session. -/
def counted (s : State) (calls : List Call) : List (Run.Made Counted) :=
  (Run.history Call.action s calls).flatMap fun made => made.call.counted made.before

end Keyring.Session
