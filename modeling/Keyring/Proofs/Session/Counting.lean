/-
# What a call counts

A call that is counted adds one for each event that tells of it, and nothing else, while metrics are
switched on.

* `Session.tells` says which calls an event is about, by how they ended.
* `Counted.records_action` is about one such call: it counts the events that tell of it, each once.
* `Counted.shown_action` is the same by what the report shows.
-/
import Keyring.Proofs.Manager.Operations
import Keyring.Proofs.Metrics
import Keyring.Proofs.Session.Operations
import Mathlib.Data.List.Count

namespace Keyring

namespace Run.Made

variable {κ : Type}

/-- The call returned. -/
def returned (made : Made κ) : Bool :=
  made.outcome.isOk

/-- The call raised an error of a kind. -/
def raised (made : Made κ) (kind : ErrorKind) : Bool :=
  match made.outcome with
  | .error (.key e) => e.kind = kind
  | _ => false

section

variable {c : κ} {s t : State} {kind : ErrorKind} {e : KeyError}

@[simp] lemma returned_ok : returned ⟨c, s, .ok (), t⟩ = true := rfl

@[simp] lemma returned_error {e : Failure} : returned ⟨c, s, .error e, t⟩ = false := rfl

@[simp] lemma raised_ok : raised ⟨c, s, .ok (), t⟩ kind = false := rfl

@[simp] lemma raised_key : raised ⟨c, s, .error (.key e), t⟩ kind = decide (e.kind = kind) := rfl

@[simp] lemma raised_unserved : raised ⟨c, s, .error .unserved, t⟩ kind = false := rfl

end

end Run.Made

namespace Session

/-! ## Events and calls -/

/-- Whether an event tells of a call that was made.  The managers that clients bring count nothing
of their own. -/
def tells (e : Event) (made : Run.Made Counted) : Bool :=
  match made.call, e with
  | .register id r, .registration outcome =>
    let known := ((made.before.directory id).find? r.manager.keyType).isSome
    match outcome with
    | .inserted => made.returned && !known
    | .refreshed => made.returned && known
    | .conflict => made.raised .conflictingRegistration
    | .policy => made.raised .policyViolation
    | .fips => made.raised .incompatibleFipsMode
  | .lookup .., .lookup outcome =>
    match outcome with
    | .found => made.returned
    | .unsupported => made.raised .unsupportedPrimitive
    | .unknown => made.raised .unknownKeyType
  | .manager .., .lookup .unknown => made.raised .unknownKeyType
  | .isNewKeyAllowed .., .lookup .unknown => made.raised .unknownKeyType
  | .createPrimitive m _ _, .selfTest true =>
    m.implementingClass = .jwtSigner && made.returned
  | .createPrimitive .., .selfTest false => made.raised .selfTestFailure
  | .createPrimitive m _ _, .primitiveCreated keyType =>
    m.implementingClass = .jwtSigner && keyType = Jwt.privateKeyType && made.returned
  | .createKey _ _ format, .keyGenerated bits =>
    bits = format.modulusBits.toNat && made.returned
  | _, _ => false

/-- A call counts these events, and they are those that tell of it. -/
structure Records (c : Counted) (s : State) (es : List Event) : Prop where
  nodup : es.Nodup
  metrics : (c.action s).2.metrics = es.foldl Metrics.record s.metrics
  tells_iff : ∀ e, tells e (c.make s) = true ↔ e ∈ es

namespace Counted

variable {c : Counted} {s t : State}

/-! ## One call -/

section

variable {es : List Event} (hnodup : es.Nodup)
  (hmetrics : t.metrics = es.foldl Metrics.record s.metrics)
include hnodup hmetrics

lemma records_of_ok {a : c.Result} (hrun : c.action s = (.ok a, t))
    (htells : ∀ e, tells e ⟨c, s, .ok (), t⟩ = true ↔ e ∈ es) : Records c s es where
  nodup := hnodup
  metrics := by rw [hrun, hmetrics]
  tells_iff e := by
    have hmake : c.make s = ⟨c, s, .ok (), t⟩ := by
      rw [make, Run.make, Action.discard_apply, hrun]
      rfl
    rw [hmake, htells]

lemma records_of_error {e : Failure} (hrun : c.action s = (.error e, t))
    (htells : ∀ f, tells f ⟨c, s, .error e, t⟩ = true ↔ f ∈ es) : Records c s es where
  nodup := hnodup
  metrics := by rw [hrun, hmetrics]
  tells_iff f := by
    have hmake : c.make s = ⟨c, s, .error e, t⟩ := by
      rw [make, Run.make, Action.discard_apply, hrun]
      rfl
    rw [hmake, htells]

end

lemma metrics_register (id : RegistryId) (r : Directory.Request) (s : State) :
    (Registry.register id r s).2.metrics = s.metrics.record (.registration
      (match Directory.register (s.policyOf id) (s.directory id) r with
        | .error refusal => refusal.outcome
        | .ok (acceptance, _) => acceptance.outcome)) := by
  -- the log fields that are bound do not matter
  have hplain : ∀ bound : State, bound.policyOf id = s.policyOf id →
      bound.directory id = s.directory id → (Registry.registerPlain id r bound).2.metrics
        = bound.metrics.record (.registration
          (match Directory.register (s.policyOf id) (s.directory id) r with
            | .error refusal => refusal.outcome
            | .ok (acceptance, _) => acceptance.outcome)) := by
    intro bound hpolicy hdirectory
    rw [← hpolicy, ← hdirectory, Registry.registerPlain, Action.bind_of_ok (Action.get_apply bound)]
    cases Directory.register (bound.policyOf id) (bound.directory id) r with
    | error refusal => rfl
    | ok accepted =>
      obtain ⟨acceptance, d⟩ := accepted
      cases acceptance <;> rfl
  exact hplain _ rfl rfl

lemma records_register (id : RegistryId) (r : Directory.Request) (s : State) :
    ∃ es, Records (.register id r) s es := by
  have hmetrics := metrics_register id r s
  cases hregister : Directory.register (s.policyOf id) (s.directory id) r with
  | error refusal =>
    rw [hregister] at hmetrics
    refine ⟨_, records_of_error (List.nodup_singleton _) hmetrics
      (Prod.ext (Registry.register_of_error hregister).1 rfl) fun e => ?_⟩
    cases e with
    | registration outcome =>
      cases refusal <;> cases outcome <;>
        simp [tells, KeyError.kind, Directory.Refusal.reason, Reason.kind,
          Directory.Refusal.outcome]
    | _ => simp [tells]
  | ok accepted =>
    obtain ⟨acceptance, d⟩ := accepted
    rw [hregister] at hmetrics
    have hknown := Directory.isSome_find?_of_register hregister
    refine ⟨_, records_of_ok (List.nodup_singleton _) hmetrics
      (Prod.ext (Registry.register_of_ok hregister).1 rfl) fun e => ?_⟩
    cases e with
    | registration outcome =>
      cases acceptance <;> cases outcome <;>
        simp [tells, hknown, Directory.Acceptance.outcome]
    | _ => simp [tells]

lemma records_lookup (id : RegistryId) (keyType : String) (kind : PrimitiveKind) (s : State) :
    ∃ es, Records (.lookup id keyType kind) s es := by
  cases hfound : (s.directory id).find? keyType with
  | none =>
    refine ⟨[.lookup .unknown], records_of_error (List.nodup_singleton _) rfl
      (Action.bind_of_error (Registry.entry_of_none hfound)) fun e => ?_⟩
    cases e with
    | lookup outcome => cases outcome <;> simp [tells, KeyError.kind, Reason.kind]
    | _ => simp [tells]
  | some entry =>
    have hrun : (lookup id keyType kind).action s = _ :=
      Action.bind_of_ok (Registry.entry_apply hfound)
    cases hkind : entry.supports kind with
    | true =>
      rw [hkind, if_pos rfl] at hrun
      refine ⟨[.lookup .found], records_of_ok (List.nodup_singleton _) rfl hrun fun e => ?_⟩
      cases e with
      | lookup outcome => cases outcome <;> simp [tells]
      | _ => simp [tells]
    | false =>
      rw [hkind, if_neg Bool.false_ne_true] at hrun
      refine ⟨[.lookup .unsupported], records_of_error (List.nodup_singleton _) rfl hrun
        fun e => ?_⟩
      cases e with
      | lookup outcome => cases outcome <;> simp [tells, KeyError.kind, Reason.kind]
      | _ => simp [tells]

/-- Reading an entry counts only that there is none. -/
lemma records_entry {id : RegistryId} {keyType : String}
    (hc : c = .manager id keyType ∨ c = .isNewKeyAllowed id keyType) (s : State) :
    ∃ es, Records c s es := by
  cases hfound : (s.directory id).find? keyType with
  | none =>
    have hentry := Registry.entry_of_none hfound
    rcases hc with rfl | rfl
    all_goals
      refine ⟨[.lookup .unknown], records_of_error (List.nodup_singleton _) rfl
        (Action.bind_of_error hentry) fun e => ?_⟩
      cases e with
      | lookup outcome => cases outcome <;> simp [tells, KeyError.kind, Reason.kind]
      | _ => simp [tells]
  | some entry =>
    have hentry := Registry.entry_apply hfound
    rcases hc with rfl | rfl
    all_goals
      refine ⟨[], records_of_ok List.nodup_nil rfl (Action.bind_of_ok hentry) fun e => ?_⟩
      cases e with
      | lookup outcome => cases outcome <;> simp [tells]
      | _ => simp [tells]

/-- A signer that is made passed its self-test; of what is refused only a failed one counts. -/
lemma metrics_makeSigner (key : Jwt.PrivateKey) (crypto : Rsa.CryptoModule) (s : State) :
    (key.makeSigner crypto s).2.metrics
      = match key.signer crypto with
        | .error e =>
          if e.kind = .selfTestFailure then s.metrics.record (.selfTest false) else s.metrics
        | .ok _ =>
          (s.metrics.record (.selfTest true)).record (.primitiveCreated Jwt.privateKeyType) := by
  change (key.makeSignerPlain crypto _).2.metrics = _
  rw [Jwt.PrivateKey.makeSignerPlain]
  cases key.signer crypto with
  | ok signer => rfl
  | error e =>
    by_cases hkind : e.kind = .selfTestFailure
    · simp only [hkind, if_true]
      rfl
    · simp only [hkind, if_false]
      rfl

lemma records_makeSigner (serial : Nat) (policy : PolicyId) (crypto : Rsa.CryptoModule)
    (key : Jwt.PrivateKey) (s : State) :
    ∃ es, Records (.createPrimitive (.jwtSigner serial policy) crypto (.jwt key)) s es := by
  have hmetrics := metrics_makeSigner key crypto s
  have hout := (Manager.createPrimitive_apply serial policy crypto key s).1
  have hafter : (Manager.createPrimitive (.jwtSigner serial policy) crypto (.jwt key) s).2
      = (key.makeSigner crypto s).2 :=
    congrArg Prod.snd (Action.bind_pure_apply _ Primitive.signer s)
  have hrun : Manager.createPrimitive (.jwtSigner serial policy) crypto (.jwt key) s
      = (((key.signer crypto).map .signer).mapError .key, (key.makeSigner crypto s).2) :=
    Prod.ext hout hafter
  cases hsigner : key.signer crypto with
  | ok signer =>
    rw [hsigner] at hmetrics hrun
    refine ⟨[.selfTest true, .primitiveCreated Jwt.privateKeyType],
      records_of_ok (by decide) hmetrics hrun fun e => ?_⟩
    cases e with
    | selfTest passed => cases passed <;> simp [tells, Manager.implementingClass]
    | _ => simp [tells, Manager.implementingClass]
  | error e =>
    rw [hsigner] at hmetrics hrun
    dsimp only at hmetrics
    by_cases hkind : e.kind = .selfTestFailure
    · rw [if_pos hkind] at hmetrics
      refine ⟨[.selfTest false],
        records_of_error (List.nodup_singleton _) hmetrics hrun fun f => ?_⟩
      cases f with
      | selfTest passed => cases passed <;> simp [tells, hkind]
      | _ => simp [tells]
    · rw [if_neg hkind] at hmetrics
      refine ⟨[], records_of_error List.nodup_nil hmetrics hrun fun f => ?_⟩
      cases f with
      | selfTest passed => cases passed <;> simp [tells, hkind]
      | _ => simp [tells]

lemma records_createPrimitive (m : Manager) (crypto : Rsa.CryptoModule) (key : Key) (s : State) :
    ∃ es, Records (.createPrimitive m crypto key) s es := by
  have hunserved : (createPrimitive m crypto key).action s = (.error .unserved, s) →
      ∃ es, Records (.createPrimitive m crypto key) s es := fun hrun => by
    refine ⟨[], records_of_error List.nodup_nil rfl hrun fun e => ?_⟩
    cases e with
    | selfTest passed => cases passed <;> simp [tells]
    | _ => simp [tells]
  cases m with
  | jwtSigner serial policy =>
    cases key with
    | jwt key => exact records_makeSigner serial policy crypto key s
    | plain b => exact hunserved rfl
  | external serial m =>
    cases key with
    | jwt key => exact hunserved rfl
    | plain b =>
      refine ⟨[], records_of_ok List.nodup_nil rfl rfl fun e => ?_⟩
      cases e with
      | selfTest passed => cases passed <;> simp [tells, Manager.implementingClass]
      | _ => simp [tells, Manager.implementingClass]

lemma records_createKey (m : Manager) (crypto : Rsa.CryptoModule) (format : Jwt.KeyFormat)
    (s : State) : ∃ es, Records (.createKey m crypto format) s es := by
  cases m with
  | external serial e =>
    refine ⟨[], records_of_error List.nodup_nil rfl rfl fun e => ?_⟩
    cases e <;> simp [tells]
  | jwtSigner serial policy =>
    have hrun : (Counted.createKey (.jwtSigner serial policy) crypto format).action s
        = (Action.ofExcept (format.newKey crypto) >>= fun key => do
          Action.count (.keyGenerated format.modulusBits.toNat)
          pure key) s := rfl
    cases hnew : format.newKey crypto with
    | error e =>
      rw [hnew] at hrun
      refine ⟨[], records_of_error List.nodup_nil rfl hrun fun f => ?_⟩
      cases f <;> simp [tells]
    | ok key =>
      rw [hnew] at hrun
      refine ⟨[.keyGenerated format.modulusBits.toNat],
        records_of_ok (List.nodup_singleton _) rfl hrun fun e => ?_⟩
      cases e <;> simp [tells]

/-- A call counts the events that tell of it, each once. -/
lemma records_action (c : Counted) (s : State) : ∃ es, Records c s es := by
  cases c with
  | register id r => exact records_register id r s
  | lookup id keyType kind => exact records_lookup id keyType kind s
  | manager id keyType => exact records_entry (.inl rfl) s
  | isNewKeyAllowed id keyType => exact records_entry (.inr rfl) s
  | createPrimitive m crypto key => exact records_createPrimitive m crypto key s
  | createKey m crypto format => exact records_createKey m crypto format s

/-- No counted call switches metrics on or off. -/
lemma enabled_action (c : Counted) (s : State) :
    (c.action s).2.metrics.enabled = s.metrics.enabled := by
  obtain ⟨es, -, hmetrics, -⟩ := c.records_action s
  rw [hmetrics, Metrics.enabled_foldl_record]

end Counted

/-! ## How often an event came about -/

/-- How many of the calls that were made while metrics were switched on an event tells of. -/
def told (e : Event) (made : List (Run.Made Counted)) : Nat :=
  made.countP fun m => m.before.metrics.enabled && tells e m

/-- A signer that was made is told of twice, by its self-test and as a primitive. -/
lemma told_selfTest (made : List (Run.Made Counted)) :
    told (.selfTest true) made = told (.primitiveCreated Jwt.privateKeyType) made := by
  have hsame : ∀ m : Run.Made Counted,
      tells (.selfTest true) m = tells (.primitiveCreated Jwt.privateKeyType) m := by
    rintro ⟨c, s, outcome, t⟩
    cases c <;> simp [tells]
  simp only [told, hsame]

lemma told_append (e : Event) (made made' : List (Run.Made Counted)) :
    told e (made ++ made') = told e made + told e made' :=
  List.countP_append

lemma Counted.shown_action (c : Counted) (s : State) (e : Event) :
    (c.action s).2.metrics.shown e.counter e.label
      = s.metrics.shown e.counter e.label + told e [c.make s] := by
  obtain ⟨es, hnodup, hmetrics, htells⟩ := c.records_action s
  rw [hmetrics, Metrics.shown_foldl_record, told, List.countP_singleton]
  change _ = _ + if s.metrics.enabled && tells e (c.make s) then 1 else 0
  cases s.metrics.enabled with
  | false => rfl
  | true =>
    rw [Bool.true_and, if_pos rfl, hnodup.count]
    simp only [htells]

end Session

end Keyring
