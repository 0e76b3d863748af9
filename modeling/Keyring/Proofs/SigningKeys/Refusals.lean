/-
# How making a signing key fails

What may go wrong when a signing key is made is an error of the family, with these exceptions: the
size of the modulus does not fit its field of 32 bits; the registered manager is one that makes no
keys; the generator fails without refusing; it refuses an exponent that is too long for the message
of the error; or the custom key id cannot be stored, because it is not a text.

* `Granted` is what has to hold before the manager is asked; `create_of_granted` and
  `create_of_not_granted` are the two ways in which a call goes on.
* `Escapes` are the exceptions.  The manager of signing keys comes to the generator if the size
  passes; `makeKey_of_passing` says what it gives then, and `generated_escapes_iff` which of the
  exceptions are left.
* `create_escapes_iff` says that there are no others, and `not_failsInFamily` that the first of them
  happens for a template within the limits on keys.
-/
import Keyring.Proofs.Manager.FipsSizes
import Keyring.Proofs.Number.Text
import Keyring.Proofs.SigningKeys.Creation

namespace Keyring

namespace Jwt.Template

variable {t : Template}

/-- A format has 32 bits for the size of the modulus, which is not among the limits on keys. -/
lemma toKeyFormat_of_large (h : 2 ^ 32 ≤ t.modulusBits) : t.toKeyFormat = .error .range := by
  have hmodulus : Wire.asUnsigned t.modulusBits = .error .range := by
    rw [Wire.asUnsigned, if_neg]
    omega
  rw [toKeyFormat, hmodulus]
  cases t.algorithm <;> rfl

lemma exists_toKeyFormat (h : t.modulusBits < 2 ^ 32) : ∃ format, t.toKeyFormat = .ok format := by
  have hmodulus : Wire.asUnsigned t.modulusBits = .ok (UInt32.ofNat t.modulusBits) := by
    rw [Wire.asUnsigned, if_pos]
    · rfl
    · omega
  rw [toKeyFormat, hmodulus]
  cases t.algorithm <;> exact ⟨_, rfl⟩

end Jwt.Template

namespace SigningKeys

variable {crypto : Rsa.CryptoModule} {registry : RegistryId} {template : Jwt.Template}
  {customKid : Option Jwt.OfferedKid} {s : State} {entry : DirectoryEntry}

/-! ## Before the manager is asked -/

/-- The registry has a manager for signing keys and allows new ones, and the custom key id fits. -/
structure Granted (registry : RegistryId) (template : Jwt.Template)
    (customKid : Option Jwt.OfferedKid) (s : State) (entry : DirectoryEntry) : Prop where
  found : (s.directory registry).find? Jwt.privateKeyType = some entry
  supported : entry.supports .jwtPublicKeySign = true
  allowed : entry.newKeyAllowed = true
  fits : template.kidStrategy.Fits customKid

lemma create_of_granted (h : Granted registry template customKid s entry) :
    create crypto registry template customKid s
      = makeKey crypto template customKid entry.manager (s.count (.lookup .found)) := by
  have hlookup : Registry.lookup registry Jwt.privateKeyType .jwtPublicKeySign s
      = (.ok entry.manager, s.count (.lookup .found)) := by
    rw [Registry.lookup, Action.bind_of_ok (Registry.entry_apply h.found), if_pos h.supported]
    rfl
  have hallowed := Registry.isNewKeyAllowed_apply (s := s.count (.lookup .found)) h.found
  rw [create, Action.bind_of_ok hlookup, Action.bind_of_ok hallowed, h.allowed,
    checkCustomKid_eq_ok_iff.2 h.fits]
  simp only [Bool.not_true, Bool.false_eq_true, if_false]
  rw [makeKey]
  exact Action.bind_of_ok (Action.ofKey_eq_ok_iff.2 ⟨rfl, rfl⟩)

lemma create_of_not_granted (crypto : Rsa.CryptoModule)
    (h : ¬ ∃ entry, Granted registry template customKid s entry) :
    ∃ e t, create crypto registry template customKid s = (.error (.key e), t) := by
  rcases create_cases crypto registry template customKid s with
    ⟨hfits, entry, hfound, hlookup, -⟩ | hrefused
  · have hsupported : entry.supports .jwtPublicKeySign = true :=
      List.contains_iff_mem.2 ((Registry.lookup_eq_ok_iff hfound).1 (congrArg Prod.fst hlookup))
    have hdisallowed : entry.newKeyAllowed = false :=
      Bool.eq_false_iff.2 fun hallowed => h ⟨entry, hfound, hsupported, hallowed, hfits⟩
    have hflag := Registry.isNewKeyAllowed_apply (s := s.count (.lookup .found)) hfound
    rw [create, Action.bind_of_ok hlookup, Action.bind_of_ok hflag, hdisallowed]
    exact ⟨_, _, rfl⟩
  · exact hrefused

/-! ## What the manager does -/

/-- The size of the modulus fits into a format and keeps the limits under a policy. -/
def Passes (template : Jwt.Template) (policy : FipsPolicy) : Prop :=
  template.modulusBits < 2 ^ 32
    ∧ (policy.restricted = true → Limits.FipsSize template.modulusBits)

/-- How a manager that is asked for a key fails with an error that is not of the family. -/
inductive Escapes (crypto : Rsa.CryptoModule) (template : Jwt.Template)
    (customKid : Option Jwt.OfferedKid) (policies : PolicyId → FipsPolicy) :
    Manager → Failure → Prop
  /-- A format has 32 bits for the size of the modulus. -/
  | size {manager : Manager} (large : 2 ^ 32 ≤ template.modulusBits) :
      Escapes crypto template customKid policies manager .range
  /-- A manager that an application brings makes no keys. -/
  | external {serial : Nat} {m : ExternalManager} (small : template.modulusBits < 2 ^ 32) :
      Escapes crypto template customKid policies (.external serial m) .unserved
  /-- The generator fails, and not because it refuses. -/
  | generator {serial : Nat} {policy : PolicyId} (passes : Passes template (policies policy))
      (broken : crypto.generate template.modulusBits template.publicExponent = .error .broken) :
      Escapes crypto template customKid policies (.jwtSigner serial policy) .foreign
  /-- The generator refuses, and the exponent is too long for the message that says so. -/
  | exponent {serial : Nat} {policy : PolicyId} (passes : Passes template (policies policy))
      (refused : crypto.generate template.modulusBits template.publicExponent = .error .refused)
      (long : ¬ Number.IsShort template.publicExponent) :
      Escapes crypto template customKid policies (.jwtSigner serial policy) .range
  /-- There is a key, but its custom key id cannot be stored. -/
  | kid {serial : Nat} {policy : PolicyId} {pair : Rsa.KeyPair}
      (passes : Passes template (policies policy))
      (made : crypto.generate template.modulusBits template.publicExponent = .ok pair)
      (broken : customKid = some .broken) :
      Escapes crypto template customKid policies (.jwtSigner serial policy) .unencodable

namespace Escapes

variable {policies : PolicyId → FipsPolicy} {manager : Manager} {e : Failure}

/-- A size that does not fit leaves no other exception. -/
lemma eq_range (h : Escapes crypto template customKid policies manager e)
    (hlarge : 2 ^ 32 ≤ template.modulusBits) : e = .range := by
  cases h with
  | size => rfl
  | external small => exact absurd hlarge (Nat.not_le_of_lt small)
  | generator passes => exact absurd hlarge (Nat.not_le_of_lt passes.1)
  | exponent passes => exact absurd hlarge (Nat.not_le_of_lt passes.1)
  | kid passes => exact absurd hlarge (Nat.not_le_of_lt passes.1)

/-- The exceptions of the manager of signing keys come behind its check of the format. -/
lemma passes {serial : Nat} {policy : PolicyId}
    (h : Escapes crypto template customKid policies (.jwtSigner serial policy) e)
    (hsmall : template.modulusBits < 2 ^ 32) : Passes template (policies policy) := by
  cases h with
  | size large => exact absurd large (Nat.not_le_of_lt hsmall)
  | generator passes => exact passes
  | exponent passes => exact passes
  | kid passes => exact passes

end Escapes

/-- The version of a manager asks nothing of a format. -/
lemma version_eq_zero (manager : Manager) : manager.version = 0 := by
  cases manager <;> rfl

lemma makeKey_of_large (h : 2 ^ 32 ≤ template.modulusBits) (manager : Manager) :
    makeKey crypto template customKid manager s = (.error .range, s) := by
  rw [makeKey, version_eq_zero]
  refine Action.bind_of_error ?_
  rw [Action.ofExcept_apply]
  exact congrArg (·, s) (Jwt.Template.toKeyFormat_of_large h)

/-- Whatever the manager, it is asked for a format that is there if the size fits. -/
lemma exists_makeKey_apply (h : template.modulusBits < 2 ^ 32) (manager : Manager) :
    ∃ format, template.toKeyFormat = .ok format ∧ makeKey crypto template customKid manager s
      = (manager.checkFormat format >>= fun _ => manager.createKey crypto format >>= fun key =>
          Action.ofExcept (key.label customKid)) s := by
  obtain ⟨format, hformat⟩ := Jwt.Template.exists_toKeyFormat h
  refine ⟨format, hformat, ?_⟩
  rw [makeKey, version_eq_zero]
  exact Action.bind_of_ok (Action.ofExcept_eq_ok_iff.2 ⟨hformat, rfl⟩)

/-- A manager that an application brings makes no keys. -/
lemma makeKey_of_external (h : template.modulusBits < 2 ^ 32) (serial : Nat) (m : ExternalManager) :
    makeKey crypto template customKid (.external serial m) s = (.error .unserved, s) := by
  obtain ⟨format, -, hmake⟩ := exists_makeKey_apply h (.external serial m)
  rw [hmake]
  exact Action.bind_of_error rfl

/-- A size that is not left under the restriction is refused before the generator is asked. -/
lemma makeKey_of_not_passing {serial : Nat} {policy : PolicyId}
    (hsmall : template.modulusBits < 2 ^ 32) (h : ¬ Passes template (s.policy policy)) :
    ∃ e, makeKey crypto template customKid (.jwtSigner serial policy) s = (.error (.key e), s) := by
  obtain ⟨format, hformat, hmake⟩ := exists_makeKey_apply hsmall (.jwtSigner serial policy)
  have hrun : (Manager.jwtSigner serial policy).checkFormat format s
      = Action.ofKey (format.check (s.policy policy)) s := Action.bind_of_ok (Action.get_apply s)
  cases hcheck : format.check (s.policy policy) with
  | ok _ => exact absurd ⟨hsmall, (Jwt.Template.check_iff hformat).1 hcheck⟩ h
  | error e =>
    rw [hcheck] at hrun
    exact ⟨e, hmake.trans (Action.bind_of_error hrun)⟩

/-- The manager of signing keys gives what the generator makes, with the custom key id. -/
lemma makeKey_of_passing (serial : Nat) {policy : PolicyId}
    (h : Passes template (s.policy policy)) :
    ∃ algorithm, (makeKey crypto template customKid (.jwtSigner serial policy) s).1
      = crypto.newKeyPair template.modulusBits template.publicExponent >>= fun pair =>
          (Jwt.PrivateKey.ofKeyPair algorithm pair).label customKid := by
  obtain ⟨format, hformat, hmake⟩ := exists_makeKey_apply h.1 (.jwtSigner serial policy)
  obtain ⟨-, hbits, hexponent⟩ := Jwt.Template.toKeyFormat_eq_ok hformat
  refine ⟨format.algorithm, ?_⟩
  rw [hmake, Action.bind_of_ok (Manager.checkFormat_eq_ok_iff.2
    ⟨(Jwt.Template.check_iff hformat).2 h.2, rfl⟩), Manager.createKey, Jwt.KeyFormat.makeKey,
    Jwt.KeyFormat.newKey, hbits, hexponent]
  cases crypto.newKeyPair template.modulusBits template.publicExponent with
  | error e => rfl
  | ok pair => exact congrArg Prod.fst (Action.ofExcept_apply _ _)

/-! ## Errors that are not of the family -/

/-- The size is never too long for the message of a refusal. -/
lemma refusal_eq (h : template.modulusBits < 2 ^ 32) :
    Rsa.refusal template.modulusBits template.publicExponent
      = if Number.IsShort template.publicExponent then
          .key ⟨.generationRefused template.modulusBits template.publicExponent, none⟩
        else .range := by
  have hshort : Number.IsShort template.modulusBits := by
    refine Number.isShort_iff.2 (h.trans_le ?_)
    calc 2 ^ 32 ≤ 10 ^ 10 := by decide
      _ ≤ 10 ^ Number.maxDigits := Nat.pow_le_pow_right (by decide) (by decide)
  simp only [Rsa.refusal, hshort, true_and]

/-- What the generator and the custom key id may lead to. -/
lemma generated_escapes_iff {serial : Nat} {policy : PolicyId}
    (h : Passes template (s.policy policy)) (algorithm : Int32) {e : Failure} :
    (crypto.newKeyPair template.modulusBits template.publicExponent >>= fun pair =>
        (Jwt.PrivateKey.ofKeyPair algorithm pair).label customKid) = .error e
        ∧ e.isKeyError = false
      ↔ Escapes crypto template customKid s.policy (.jwtSigner serial policy) e := by
  constructor
  · rintro ⟨hout, hescapes⟩
    rw [Rsa.CryptoModule.newKeyPair] at hout
    cases hgenerate : crypto.generate template.modulusBits template.publicExponent with
    | error failure =>
      rw [hgenerate] at hout
      cases failure with
      | broken =>
        cases hout
        exact .generator h hgenerate
      | refused =>
        obtain rfl : Rsa.refusal template.modulusBits template.publicExponent = e :=
          Except.error.inj hout
        rw [refusal_eq h.1] at hescapes ⊢
        split at hescapes
        · cases hescapes
        · rw [if_neg ‹_›]
          exact .exponent h hgenerate ‹_›
    | ok pair =>
      rw [hgenerate] at hout
      rcases customKid with _ | kid | _
      · cases hout
      · cases hout
      · cases hout
        exact .kid h hgenerate rfl
  · intro hway
    rw [Rsa.CryptoModule.newKeyPair]
    cases hway with
    | size large => exact absurd large (Nat.not_le_of_lt h.1)
    | generator _ broken =>
      rw [broken]
      exact ⟨rfl, rfl⟩
    | exponent _ refused long =>
      rw [refused]
      exact ⟨congrArg Except.error ((refusal_eq h.1).trans (if_neg long)), rfl⟩
    | kid _ made broken =>
      rw [made, broken]
      exact ⟨rfl, rfl⟩

/-- How a manager fails with an error that is not of the family. -/
lemma makeKey_escapes_iff {manager : Manager} {e : Failure} :
    (makeKey crypto template customKid manager s).1 = .error e ∧ e.isKeyError = false
      ↔ Escapes crypto template customKid s.policy manager e := by
  rcases Nat.lt_or_ge template.modulusBits (2 ^ 32) with hsmall | hlarge
  · cases manager with
    | external serial m =>
      rw [makeKey_of_external hsmall]
      constructor
      · rintro ⟨⟨⟩, -⟩
        exact .external hsmall
      · intro h
        cases h with
        | size large => exact absurd large (Nat.not_le_of_lt hsmall)
        | external => exact ⟨rfl, rfl⟩
    | jwtSigner serial policy =>
      by_cases hpasses : Passes template (s.policy policy)
      · obtain ⟨algorithm, hmake⟩ := makeKey_of_passing serial hpasses
        rw [hmake]
        exact generated_escapes_iff hpasses algorithm
      · obtain ⟨e', hrefused⟩ := makeKey_of_not_passing hsmall hpasses
        rw [hrefused]
        constructor
        · rintro ⟨⟨⟩, h⟩
          cases h
        · exact fun h => absurd (h.passes hsmall) hpasses
  · rw [makeKey_of_large hlarge]
    constructor
    · rintro ⟨⟨⟩, -⟩
      exact .size hlarge
    · intro h
      obtain rfl := h.eq_range hlarge
      exact ⟨rfl, rfl⟩

/-- The registry passes on what its manager fails with, and its own refusals are of the family. -/
lemma escapes_iff_granted {e : Failure} :
    (create crypto registry template customKid s).1 = .error e ∧ e.isKeyError = false
      ↔ ∃ entry, Granted registry template customKid s entry
        ∧ Escapes crypto template customKid s.policy entry.manager e := by
  by_cases hgranted : ∃ entry, Granted registry template customKid s entry
  · obtain ⟨entry, hentry⟩ := hgranted
    rw [create_of_granted hentry, makeKey_escapes_iff]
    refine ⟨fun h => ⟨entry, hentry, h⟩, ?_⟩
    rintro ⟨entry', hentry', h⟩
    rwa [Option.some.inj (hentry'.found.symm.trans hentry.found)] at h
  · obtain ⟨e', t, hrefused⟩ := create_of_not_granted crypto hgranted
    rw [hrefused]
    refine ⟨?_, fun ⟨entry, hentry, _⟩ => absurd ⟨entry, hentry⟩ hgranted⟩
    rintro ⟨⟨⟩, h⟩
    cases h

/-- Making a signing key fails with an error that is not of the family if and only if everything is
granted and then one of the exceptions happens.  In a populated registry a key is made or the error
is of the family, whatever the strategy and the algorithm, if the size fits into a format, the
generator does not fail but by refusing, the exponent is not too long for the message of a refusal,
and the custom key id is a text. -/
theorem create_escapes_iff (crypto : Rsa.CryptoModule) (registry : RegistryId)
    (template : Jwt.Template) (customKid : Option Jwt.OfferedKid) (s : State) :
    (∀ e, (create crypto registry template customKid s).1 = .error e ∧ e.isKeyError = false
        ↔ ∃ entry, Granted registry template customKid s entry
          ∧ Escapes crypto template customKid s.policy entry.manager e)
      ∧ (Populated registry s → template.modulusBits < 2 ^ 32 →
        crypto.generate template.modulusBits template.publicExponent ≠ .error .broken →
        Number.IsShort template.publicExponent → customKid ≠ some .broken →
        (∃ key t, create crypto registry template customKid s = (.ok key, t))
          ∨ ∃ e t, create crypto registry template customKid s = (.error (.key e), t)) := by
  refine ⟨fun e => escapes_iff_granted, fun hpopulated hsmall hgenerator hshort hkid => ?_⟩
  obtain ⟨entry, serial, policy, hfound, hmanager⟩ := hpopulated.serving.exists_manager
  rcases hrun : create crypto registry template customKid s with ⟨e | key, t⟩
  · have hfamily : e.isKeyError = true := by
      by_contra hescapes
      obtain ⟨entry', hentry', hway⟩ :=
        escapes_iff_granted.1 ⟨congrArg Prod.fst hrun, Bool.eq_false_iff.2 hescapes⟩
      rw [Option.some.inj (hentry'.found.symm.trans hfound), hmanager] at hway
      cases hway with
      | size large => exact Nat.not_le_of_lt hsmall large
      | generator _ broken => exact hgenerator broken
      | exponent _ _ long => exact long hshort
      | kid _ _ broken => exact hkid broken
    cases e with
    | key e => exact .inr ⟨e, t, rfl⟩
    | _ => cases hfamily
  · exact .inl ⟨key, t, rfl⟩

/-- A template within the limits on keys, whose size does not fit into a format. -/
def hugeTemplate : Jwt.Template := .standard (2 ^ 32) .rs256 .ignored (by decide)

/-- Whether in populated registries every failure is an error of the family. -/
def FailsInFamily : Prop :=
  ∀ crypto registry template customKid s, Populated registry s → ∀ e,
    (create crypto registry template customKid s).1 = .error e → e.isKeyError = true

/-- A template within the limits on keys makes a populated registry fail with an error that is not
of the family. -/
theorem not_failsInFamily : ¬ FailsInFamily := by
  intro h
  cases h (Rsa.CryptoModule.exact none) ⟨0⟩ hugeTemplate none onePopulated populated_onePopulated
    .range rfl

/-- The entry of the registry. -/
def signerEntry : DirectoryEntry :=
  { manager := .jwtSigner 0 ⟨0⟩, implementingClass := .jwtSigner
    primitives := [.jwtPublicKeySign], newKeyAllowed := true }

lemma granted_onePopulated {template : Jwt.Template} {customKid : Option Jwt.OfferedKid}
    (hfits : template.kidStrategy.Fits customKid) :
    Granted ⟨0⟩ template customKid onePopulated signerEntry :=
  ⟨rfl, rfl, rfl, hfits⟩

/-- A generator that fails, whatever it is asked for. -/
def brokenModule : Rsa.CryptoModule :=
  { Rsa.CryptoModule.exact none with generate := fun _ _ => .error .broken }

/-- A template whose exponent has too many digits for a message. -/
def longTemplate : Jwt.Template :=
  { mersenneTemplate with
    publicExponent := 10 ^ Number.maxDigits + 1
    exponent_odd := by decide +kernel
    exponent_large := by decide +kernel }

/-- Each of the exceptions that a populated registry is left with happens; for a size that fits, a
generator that refuses a usual exponent is an error of the family. -/
theorem create_escapes_iff_onePopulated :
    (create (Rsa.CryptoModule.exact none) ⟨0⟩ hugeTemplate none onePopulated).1 = .error .range
      ∧ (create brokenModule ⟨0⟩ mersenneTemplate (some (.text "kid")) onePopulated).1
        = .error .foreign
      ∧ (create (Rsa.CryptoModule.exact none) ⟨0⟩ longTemplate (some (.text "kid")) onePopulated).1
        = .error .range
      ∧ (create (Rsa.CryptoModule.exact (some Rsa.mersenneKey)) ⟨0⟩ mersenneTemplate (some .broken)
          onePopulated).1 = .error .unencodable
      ∧ ∃ e t, create (Rsa.CryptoModule.exact none) ⟨0⟩ mersenneTemplate (some (.text "kid"))
          onePopulated = (.error (.key e), t) := by
  have hpasses : ∀ template : Jwt.Template, template.modulusBits = 2330 →
      Passes template (onePopulated.policy ⟨0⟩) :=
    fun template hbits => ⟨by omega, nofun⟩
  have hcustom : ∀ kid : Jwt.OfferedKid, kid ≠ .text "" →
      Jwt.KidStrategy.Fits .custom (some kid) := fun kid => .custom
  refine ⟨?_, ?_, ?_, ?_, ?_⟩
  · obtain ⟨hescapes, -⟩ := create_escapes_iff (Rsa.CryptoModule.exact none) ⟨0⟩ hugeTemplate none
      onePopulated
    exact ((hescapes .range).2
      ⟨signerEntry, granted_onePopulated .ignored, .size (Nat.le_refl _)⟩).1
  · obtain ⟨hescapes, -⟩ := create_escapes_iff brokenModule ⟨0⟩ mersenneTemplate
      (some (.text "kid")) onePopulated
    exact ((hescapes .foreign).2 ⟨signerEntry, granted_onePopulated (hcustom _ (by decide)),
      .generator (hpasses _ rfl) rfl⟩).1
  · obtain ⟨hescapes, -⟩ := create_escapes_iff (Rsa.CryptoModule.exact none) ⟨0⟩ longTemplate
      (some (.text "kid")) onePopulated
    have hlong : ¬ Number.IsShort longTemplate.publicExponent := by
      rw [Number.isShort_iff]
      decide +kernel
    exact ((hescapes .range).2 ⟨signerEntry, granted_onePopulated (hcustom _ (by decide)),
      .exponent (hpasses _ rfl) (by decide +kernel) hlong⟩).1
  · obtain ⟨hescapes, -⟩ := create_escapes_iff (Rsa.CryptoModule.exact (some Rsa.mersenneKey)) ⟨0⟩
      mersenneTemplate (some .broken) onePopulated
    exact ((hescapes .unencodable).2 ⟨signerEntry, granted_onePopulated (hcustom _ (by decide)),
      .kid (hpasses _ rfl) (by rfl) rfl⟩).1
  · obtain ⟨-, hfamily⟩ := create_escapes_iff (Rsa.CryptoModule.exact none) ⟨0⟩ mersenneTemplate
      (some (.text "kid")) onePopulated
    have hsmall : mersenneTemplate.modulusBits < 2 ^ 32 := by decide
    have hrefused : (Rsa.CryptoModule.exact none).generate mersenneTemplate.modulusBits
        mersenneTemplate.publicExponent ≠ .error .broken := by decide
    have hshort : Number.IsShort mersenneTemplate.publicExponent := by decide
    rcases hfamily populated_onePopulated hsmall hrefused hshort (by decide) with
      ⟨key, t, hrun⟩ | herror
    · have hout : (create (Rsa.CryptoModule.exact none) ⟨0⟩ mersenneTemplate (some (.text "kid"))
          onePopulated).1.isOk = false := by decide +kernel
      rw [hrun] at hout
      cases hout
    · exact herror

end SigningKeys

end Keyring
