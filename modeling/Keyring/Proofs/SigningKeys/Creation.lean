/-
# What new signing keys are good for

A key that is made for a template through a registry is one that the registered manager accepts and
makes a signer from, and the tokens of that signer have the key id of the template's strategy.

* `SigningKeys.checkCustomKid_eq_ok_iff` says which custom key ids are accepted for a strategy.
* `SigningKeys.create_cases` takes a call apart, and `SigningKeys.makeKey_eq_ok_iff` its second
  half, which the manager of signing keys does.
* `SigningKeys.create_outcome` puts both together with checking, making a signer and signing.
-/
import Keyring.Proofs.Jwt.Generation
import Keyring.Proofs.Jwt.KeyIds
import Keyring.Proofs.Jwt.Signing
import Keyring.Proofs.Jwt.TemplateFormat
import Keyring.Proofs.SigningKeys.Populated

namespace Keyring.SigningKeys

variable {crypto : Rsa.CryptoModule} {template : Jwt.Template} {customKid : Option Jwt.OfferedKid}
  {serial : Nat} {policy : PolicyId} {key : Jwt.PrivateKey} {s t : State}

/-! ## Custom key ids -/

lemma checkCustomKid_eq_ok_iff {strategy : Jwt.KidStrategy} :
    checkCustomKid strategy customKid = .ok () ↔ strategy.Fits customKid := by
  constructor
  · intro h
    cases strategy with
    | ignored =>
      cases customKid with
      | none => exact .ignored
      | some kid => cases h
    | base64EncodedKeyId =>
      cases customKid with
      | none => exact .base64EncodedKeyId
      | some kid => cases h
    | custom =>
      cases customKid with
      | none => cases h
      | some kid =>
        refine .custom fun hempty => ?_
        subst hempty
        cases h
  · intro h
    cases h with
    | ignored => rfl
    | base64EncodedKeyId => rfl
    | @custom kid nonempty =>
      have hkid : ¬ kid.isEmpty = true := by
        cases kid with
        | text kid => simpa [Jwt.OfferedKid.isEmpty] using nonempty
        | broken => exact nofun
      rw [checkCustomKid, if_neg hkid]
      rfl

/-! ## Making keys -/

/-- What is left to do when the manager has been found and the request has been allowed. -/
def makeKey (crypto : Rsa.CryptoModule) (template : Jwt.Template)
    (customKid : Option Jwt.OfferedKid) (manager : Manager) : Action Jwt.PrivateKey := do
  let format ← Action.ofExcept (template.toKeyFormat manager.version)
  manager.checkFormat format
  let key ← manager.createKey crypto format
  Action.ofExcept (key.label customKid)

/-- A key is made by the manager that the registry has, if new keys are allowed and the custom key
id fits; all else is refused before. -/
lemma create_cases (crypto : Rsa.CryptoModule) (registry : RegistryId) (template : Jwt.Template)
    (customKid : Option Jwt.OfferedKid) (s : State) :
    (template.kidStrategy.Fits customKid ∧ ∃ entry,
        (s.directory registry).find? Jwt.privateKeyType = some entry
          ∧ Registry.lookup registry Jwt.privateKeyType .jwtPublicKeySign s
            = (.ok entry.manager, s.count (.lookup .found))
          ∧ create crypto registry template customKid s
            = makeKey crypto template customKid entry.manager (s.count (.lookup .found)))
      ∨ ∃ e t, create crypto registry template customKid s = (.error (.key e), t) := by
  rcases Registry.lookup_cases registry Jwt.privateKeyType .jwtPublicKeySign s with
    ⟨entry, hfound, hlookup⟩ | ⟨e, t, hlookup⟩
  · have hallowed := Registry.isNewKeyAllowed_apply (s := s.count (.lookup .found)) hfound
    rw [create, Action.bind_of_ok hlookup, Action.bind_of_ok hallowed]
    cases entry.newKeyAllowed with
    | false => exact .inr ⟨_, _, rfl⟩
    | true =>
      cases hkid : checkCustomKid template.kidStrategy customKid with
      | error e => exact .inr ⟨e, _, rfl⟩
      | ok _ =>
        refine .inl ⟨checkCustomKid_eq_ok_iff.1 hkid, entry, hfound, hlookup, ?_⟩
        simp only [Bool.not_true, Bool.false_eq_true, if_false]
        rw [makeKey]
        exact Action.bind_of_ok (Action.ofKey_eq_ok_iff.2 ⟨rfl, rfl⟩)
  · exact .inr ⟨e, t, Action.bind_of_error hlookup⟩

/-- The manager of signing keys makes the record of a key pair that was generated for the template,
and the custom key id is put into it. -/
lemma makeKey_eq_ok_iff :
    makeKey crypto template customKid (.jwtSigner serial policy) s = (.ok key, t)
      ↔ ∃ format pair given, template.toKeyFormat = .ok format
        ∧ format.check (s.policy policy) = .ok ()
        ∧ crypto.generate format.modulusBits.toNat format.publicExponent.toNat = .ok pair
        ∧ customKid = given.map .text
        ∧ key = (Jwt.PrivateKey.ofKeyPair format.algorithm pair).labelled given
        ∧ t = s.count (.keyGenerated format.modulusBits.toNat) := by
  rw [makeKey, Action.bind_eq_ok]
  constructor
  · rintro ⟨format, u, hfirst, hrest⟩
    obtain ⟨hformat, rfl⟩ := Action.ofExcept_eq_ok_iff.1 hfirst
    obtain ⟨⟨⟩, v, hpass, hmake⟩ := Action.bind_eq_ok.1 hrest
    obtain ⟨hcheck, rfl⟩ := Manager.checkFormat_eq_ok_iff.1 hpass
    obtain ⟨made, w, hmade, hlast⟩ := Action.bind_eq_ok.1 hmake
    obtain ⟨pair, hpair, rfl, rfl⟩ := Manager.createKey_eq_ok_iff.1 hmade
    obtain ⟨hlabel, rfl⟩ := Action.ofExcept_eq_ok_iff.1 hlast
    obtain ⟨given, hgiven, rfl⟩ := Jwt.PrivateKey.label_eq_ok_iff.1 hlabel
    exact ⟨format, pair, given, hformat, hcheck, hpair, hgiven, rfl, rfl⟩
  · rintro ⟨format, pair, given, hformat, hcheck, hpair, hgiven, rfl, rfl⟩
    refine ⟨format, s, ?_, Action.bind_eq_ok.2 ⟨(), s, ?_, Action.bind_eq_ok.2
      ⟨_, _, Manager.createKey_eq_ok_iff.2 ⟨pair, hpair, rfl, rfl⟩, ?_⟩⟩⟩
    · exact Action.ofExcept_eq_ok_iff.2 ⟨hformat, rfl⟩
    · exact Manager.checkFormat_eq_ok_iff.2 ⟨hcheck, rfl⟩
    · exact Action.ofExcept_eq_ok_iff.2
        ⟨Jwt.PrivateKey.label_eq_ok_iff.2 ⟨given, hgiven, rfl⟩, rfl⟩

/-! ## Using keys -/

/-- A record within the limits gives a signer that has its custom key id. -/
lemma signer_labelled {algorithm : Int32} {pair : Rsa.KeyPair} {a : Jwt.Algorithm}
    {fips : FipsPolicy} (hcrypto : crypto.TellsPrimes) (ha : a.number = algorithm.toInt)
    (hk : pair.Consistent crypto.isPrime)
    (hcheck : (Jwt.PrivateKey.ofKeyPair algorithm pair).check fips = .ok ())
    (customKid : Option String) :
    ((Jwt.PrivateKey.ofKeyPair algorithm pair).labelled customKid).signer crypto
      = .ok { algorithm := a, customKid, key := pair } := by
  rw [← Jwt.PrivateKey.check_labelled _ customKid] at hcheck
  refine (Jwt.PrivateKey.signer_eq_ok_iff hcrypto).2 ⟨?_, ?_, ?_, ?_, ?_⟩
  · rwa [Jwt.PrivateKey.algorithm_labelled]
  · rwa [Jwt.PrivateKey.rsa_labelled, Jwt.PrivateKey.rsa_ofKeyPair]
  · exact Jwt.PrivateKey.size_le_byteLength hcheck a
  · exact (Jwt.PrivateKey.customKid_labelled rfl customKid).symm
  · rw [Jwt.PrivateKey.rsa_labelled, Jwt.PrivateKey.rsa_ofKeyPair]

/-- With the key id that the template gives the caller, the signer makes tokens whose headers have
the key id of the strategy. -/
lemma exists_token_kidFor {signer : Jwt.Signer} {jwt : Jwt.RawJwt}
    (hsign : ∀ message, ∃ own, signer.sign message = .ok own)
    (hfits : template.kidStrategy.Fits (signer.customKid.map .text)) (hjwt : jwt.Serializable)
    (pub : Jwt.PublicKey) (id : Option Int) :
    ∃ kid token payload, template.kidStrategy.HeaderKid pub signer.customKid id kid
      ∧ signer.token jwt (template.kidFor pub id) = .ok token ∧ jwt.payload = .ok payload
      ∧ signer.TokenWith (Jwt.headerMembers signer.algorithm.name jwt.typeHeader kid) payload
        token := by
  obtain ⟨token, payload, htoken, hpayload, hwith⟩ :=
    Jwt.Signer.exists_token hsign (Jwt.Template.not_both_kids hfits pub id) hjwt
  exact ⟨_, token, payload, Jwt.Template.headerKid_kidFor hfits pub id, htoken, hpayload, hwith⟩

/-- A key that was made through a populated registry is read back from its bytes, passes the check
of the registered manager and gives a signer.  Whatever is to be signed, and whatever key id the
template is asked for, the signer makes a token whose header has the key id of the strategy.  A
custom key id that does not go with the strategy is refused. -/
theorem create_outcome (crypto : Rsa.CryptoModule) (registry : RegistryId) (template : Jwt.Template)
    (customKid : Option Jwt.OfferedKid) (s : State) :
    (crypto.TellsPrimes → crypto.MakesAsAsked template.modulusBits template.publicExponent →
      Populated registry s → ∀ key t,
      create crypto registry template customKid s = (.ok key, t) →
        ∃ serial policy given, (Registry.lookup registry Jwt.privateKeyType .jwtPublicKeySign s).1
            = .ok (.jwtSigner serial policy)
          ∧ customKid = given.map .text
          ∧ ((∀ kid ∈ given, (Bytes.ofText kid).length < 2 ^ 62) →
            Jwt.PrivateKey.parse key.encode Jwt.privateKeyType = .ok key)
          ∧ t.policy policy = s.policy policy
          ∧ ∀ u : State, u.policy policy = s.policy policy →
            Manager.checkKey (.jwtSigner serial policy) (.jwt key) u = (.ok (), u)
            ∧ ∃ signer, (Manager.createPrimitive (.jwtSigner serial policy) crypto (.jwt key) u).1
                = .ok (.signer signer)
              ∧ ∀ jwt : Jwt.RawJwt, jwt.Serializable → ∀ id : Option Int,
                ∃ kid token payload, template.kidStrategy.HeaderKid key.pub given id kid
                  ∧ signer.token jwt (template.kidFor key.pub id) = .ok token
                  ∧ jwt.payload = .ok payload
                  ∧ signer.TokenWith
                    (Jwt.headerMembers template.algorithm.name jwt.typeHeader kid) payload token)
      ∧ (¬ template.kidStrategy.Fits customKid →
        ∃ e t, create crypto registry template customKid s = (.error (.key e), t)) := by
  rcases create_cases crypto registry template customKid s with
    ⟨hfits, entry, hfound, hlookup, hmake⟩ | ⟨e, t, hrefused⟩
  · refine ⟨fun hcrypto hgen hpopulated key t h => ?_, fun hnot => absurd hfits hnot⟩
    obtain ⟨entry', serial, policy, hfound', hmanager⟩ := hpopulated.serving.exists_manager
    obtain rfl : entry = entry' := Option.some.inj (hfound.symm.trans hfound')
    rw [hmake, hmanager] at h
    obtain ⟨format, pair, given, hformat, hcheck, hpair, rfl, rfl, rfl⟩ := makeKey_eq_ok_iff.1 h
    obtain ⟨halgorithm, hbits, hexponent⟩ := Jwt.Template.toKeyFormat_eq_ok hformat
    obtain ⟨hk, hn, he⟩ := hgen pair (by rw [← hbits, ← hexponent, hpair])
    rw [← hbits] at hn
    rw [← hexponent] at he
    have hload := Jwt.PrivateKey.load_ofKeyPair_lt hk
      (by rw [hn]; exact format.modulusBits.toNat_lt) format.algorithm
    refine ⟨serial, policy, given, by rw [hlookup, hmanager], rfl, fun hkid => ?_, rfl,
      fun u hu => ?_⟩
    · exact Jwt.PrivateKey.parse_eq_ok_iff.2 (Jwt.PrivateKey.decode?_encode_labelled hload hkid)
    have hpass : (Jwt.PrivateKey.ofKeyPair format.algorithm pair).check (u.policy policy)
        = .ok () := by
      rw [hu, Jwt.PrivateKey.check_ofKeyPair hn he]
      exact hcheck
    have hsigner := signer_labelled hcrypto halgorithm.symm hk hpass given
    have hsign := Jwt.PrivateKey.signs_of_signer hcrypto hsigner
    refine ⟨Manager.checkKey_eq_ok_iff.2 ⟨?_, rfl⟩, _,
      Manager.createPrimitive_eq_signer_iff.2 hsigner, fun jwt hjwt id => ?_⟩
    · exact (Jwt.PrivateKey.check_labelled _ given _).trans hpass
    · exact exists_token_kidFor hsign hfits hjwt _ id
  · refine ⟨fun _ _ _ key t h => ?_, fun _ => ⟨e, t, hrefused⟩⟩
    rw [hrefused] at h
    cases h

/-! ## A large key -/

/-- A template that the large key pair has been made for. -/
def mersenneTemplate : Jwt.Template where
  modulusBits := 2330
  publicExponent := 65537
  algorithm := .rs256
  kidStrategy := .custom
  modulus_large := by decide
  exponent_odd := rfl
  exponent_large := by decide

/-- A state with one registry, which has been populated. -/
def onePopulated : State :=
  (register ⟨0⟩ ⟨0⟩ true (Templates.create none (Registry.create {} {}).2).2).2

lemma populated_onePopulated : Populated ⟨0⟩ onePopulated := by
  have hout : (register ⟨0⟩ ⟨0⟩ true (Templates.create none (Registry.create {} {}).2).2).1
      = .ok (.jwtSigner 0 ⟨0⟩) := rfl
  refine .register ⟨0⟩ true ?_ ?_ (Prod.ext hout rfl)
  · decide
  · exact Directory.coherent_empty

lemma makesAsAsked_mersenneTemplate :
    (Rsa.CryptoModule.exact (some Rsa.mersenneKey)).MakesAsAsked mersenneTemplate.modulusBits
      mersenneTemplate.publicExponent :=
  Manager.makesAsAsked_mersenneFormat 1 _ (Manager.decode?_mersenneFormat 1)

/-- A key with a custom key id full of separators goes into the header of its tokens; without one no
key is made. -/
theorem create_outcome_onePopulated :
    ∃ key t manager signer token payload,
      create (Rsa.CryptoModule.exact (some Rsa.mersenneKey)) ⟨0⟩ mersenneTemplate
          (some (.text "\".\\\n")) onePopulated = (.ok key, t)
        ∧ Jwt.PrivateKey.parse key.encode Jwt.privateKeyType = .ok key
        ∧ Manager.checkKey manager (.jwt key) t = (.ok (), t)
        ∧ (Manager.createPrimitive manager (Rsa.CryptoModule.exact (some Rsa.mersenneKey))
          (.jwt key) t).1 = .ok (.signer signer)
        ∧ signer.token {} (mersenneTemplate.kidFor key.pub (some (-1))) = .ok token
        ∧ signer.TokenWith [("alg", "RS256"), ("kid", "\".\\\n")] payload token
        ∧ ∃ e t, create (Rsa.CryptoModule.exact (some Rsa.mersenneKey)) ⟨0⟩ mersenneTemplate none
          onePopulated = (.error (.key e), t) := by
  have hok : (create (Rsa.CryptoModule.exact (some Rsa.mersenneKey)) ⟨0⟩ mersenneTemplate
      (some (.text "\".\\\n")) onePopulated).1.isOk = true := by decide +kernel
  obtain ⟨key, t, hcreate⟩ : ∃ key t, create (Rsa.CryptoModule.exact (some Rsa.mersenneKey)) ⟨0⟩
      mersenneTemplate (some (.text "\".\\\n")) onePopulated = (.ok key, t) := by
    generalize create _ _ _ _ onePopulated = outcome at hok ⊢
    obtain ⟨_ | key, t⟩ := outcome
    · cases hok
    · exact ⟨key, t, rfl⟩
  obtain ⟨hmade, -⟩ := create_outcome (Rsa.CryptoModule.exact (some Rsa.mersenneKey)) ⟨0⟩
    mersenneTemplate (some (.text "\".\\\n")) onePopulated
  obtain ⟨-, hrefused⟩ := create_outcome (Rsa.CryptoModule.exact (some Rsa.mersenneKey)) ⟨0⟩
    mersenneTemplate none onePopulated
  obtain ⟨serial, policy, given, -, hgiven, hparse, hpolicy, husable⟩ := hmade
    (Rsa.CryptoModule.tellsPrimes_exact _) makesAsAsked_mersenneTemplate populated_onePopulated
    key t hcreate
  obtain ⟨hcheck, signer, hsigner, htoken⟩ := husable t hpolicy
  obtain ⟨kid, token, payload, hkid, hsigned, -, hwith⟩ :=
    htoken {} Jwt.RawJwt.serializable_default (some (-1))
  cases hkid with
  | custom hkid =>
    subst hkid
    obtain rfl := Jwt.OfferedKid.text.inj (Option.some.inj hgiven)
    refine ⟨key, t, _, signer, token, payload, hcreate, hparse ?_, hcheck, hsigner, hsigned, hwith,
      hrefused nofun⟩
    rintro kid ⟨⟩
    decide +kernel

end Keyring.SigningKeys
