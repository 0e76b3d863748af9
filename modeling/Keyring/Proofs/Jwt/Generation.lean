/-
# Generated keys

What the manager of JWT signing keys generates, it accepts again: the limits on a key that was made
as asked are the limits on its format.  The algorithm has no limit in either; whether there is such
an algorithm is for the signer to say.

* `Rsa.CryptoModule.MakesAsAsked` is what is taken for granted about the generator.
* `Jwt.PrivateKey.check_ofKeyPair`: the check of a key is the check of its format.
* `Jwt.PrivateKey.load_ofKeyPair_lt`: a generated key is never too long to be written.
* `Manager.newKeyData_eq_ok_iff` takes a call that gave a key apart, and
  `Manager.newKeyData_outcome` says what the key is good for.
-/
import Keyring.Proofs.Jwt.PublicHalf

namespace Keyring

/-! ## The generator -/

/-- Every key pair that is generated for a size and an exponent is consistent and has them. -/
def Rsa.CryptoModule.MakesAsAsked (m : CryptoModule) (modulusBits exponent : Nat) : Prop :=
  ∀ pair, m.generate modulusBits exponent = .ok pair →
    pair.Consistent m.isPrime ∧ bitLength pair.pub.n = modulusBits ∧ pair.pub.e = exponent

/-- A new key pair is what the generator makes. -/
lemma Rsa.CryptoModule.newKeyPair_eq_ok_iff {m : CryptoModule} {modulusBits exponent : Int}
    {pair : KeyPair} :
    m.newKeyPair modulusBits exponent = .ok pair ↔ m.generate modulusBits exponent = .ok pair := by
  rw [newKeyPair]
  cases m.generate modulusBits exponent with
  | error failure => cases failure <;> exact iff_of_false nofun nofun
  | ok made => simp only [pure, Except.pure, Except.ok.injEq]

/-- All parts are below the modulus. -/
lemma Rsa.KeyPair.Consistent.parts_lt {isPrime : Nat → Bool} {k : KeyPair}
    (hk : k.Consistent isPrime) :
    k.pub.e < k.pub.n ∧ k.priv.d < k.pub.n ∧ k.priv.p < k.pub.n ∧ k.priv.q < k.pub.n
      ∧ k.priv.dp < k.pub.n ∧ k.priv.dq < k.pub.n ∧ k.priv.crt < k.pub.n := by
  obtain ⟨⟨-, -, he, -⟩, ⟨hd, hp, hq⟩, -, -, ⟨hdp, hdq⟩, ⟨hcrt, -⟩, -⟩ := hk
  refine ⟨he, hd, hp, hq, ?_, ?_, hcrt.trans hp⟩
  · exact hdp ▸ Nat.lt_of_le_of_lt (Nat.mod_le _ _) hd
  · exact hdq ▸ Nat.lt_of_le_of_lt (Nat.mod_le _ _) hd

lemma Bytes.length_ofNat_le_of_lt_two_pow {v bits : Nat} (h : v < 2 ^ bits) :
    (Bytes.ofNat v).length ≤ bits + 1 := by
  refine Bytes.length_ofNat_le (Nat.lt_of_lt_of_le h ?_)
  calc 2 ^ bits ≤ 256 ^ bits := Nat.pow_le_pow_left (by decide) bits
    _ ≤ 256 ^ (bits + 1) := Nat.pow_le_pow_right (by decide) (Nat.le_succ bits)

namespace Jwt

/-! ## Records of key pairs -/

namespace PrivateKey

variable {pair : Rsa.KeyPair} {isPrime : Nat → Bool} {policy : FipsPolicy}

/-- A key pair whose size is a number of 32 bits is far from being too long to be written. -/
lemma load_ofKeyPair_lt (hk : pair.Consistent isPrime) (hn : bitLength pair.pub.n < 2 ^ 32)
    (algorithm : Int32) : (ofKeyPair algorithm pair).load < 2 ^ 36 := by
  obtain ⟨he, hd, hp, hq, hdp, hdq, hcrt⟩ := hk.parts_lt
  have hlt := lt_two_pow_bitLength pair.pub.n
  have hpart : ∀ v < pair.pub.n, (Bytes.ofNat v).length ≤ bitLength pair.pub.n + 1 :=
    fun v hv => Bytes.length_ofNat_le_of_lt_two_pow (hv.trans hlt)
  have hmodulus := Bytes.length_ofNat_le_of_lt_two_pow hlt
  have he := hpart _ he
  have hd := hpart _ hd
  have hp := hpart _ hp
  have hq := hpart _ hq
  have hdp := hpart _ hdp
  have hdq := hpart _ hdq
  have hcrt := hpart _ hcrt
  simp only [load, ofKeyPair, PublicKey.load, Option.elim_some, Option.elim_none, List.length_nil]
  omega

/-- The limits on a key that was made as asked are those on its format. -/
lemma check_ofKeyPair {format : KeyFormat} (hn : bitLength pair.pub.n = format.modulusBits.toNat)
    (he : pair.pub.e = format.publicExponent.toNat) (algorithm : Int32) :
    (ofKeyPair algorithm pair).check policy = format.check policy := by
  have hn' : (ofKeyPair algorithm pair).pub.n.toNat = pair.pub.n := Bytes.toNat_ofNat _
  have he' : (ofKeyPair algorithm pair).pub.e.toNat = pair.pub.e := Bytes.toNat_ofNat _
  have hversion : Limits.checkVersion (ofKeyPair algorithm pair).version.toNat keyVersion
      privateKeyType = .ok () := rfl
  rw [PrivateKey.check, hversion, hn', he', hn, he, KeyFormat.check]
  exact pure_bind _ _

/-- Within the limits every modulus is long enough for every hash. -/
lemma size_le_byteLength {key : PrivateKey} (h : key.check policy = .ok ()) (a : Algorithm) :
    a.hash.size + 30 ≤ byteLength key.pub.n.toNat := by
  have hsize : a.hash.size ≤ 64 := by cases a <;> decide
  obtain ⟨⟨⟩, -, hrest⟩ := bind_eq_ok_iff.1 h
  obtain ⟨⟨⟩, hmodulus, -⟩ := bind_eq_ok_iff.1 hrest
  have hbits := Int.ofNat_le.1 (Limits.leastModulusBits_le_of_checkModulus hmodulus)
  rw [Limits.leastModulusBits] at hbits
  rw [byteLength]
  omega

end PrivateKey

end Jwt

namespace Manager

variable {crypto : Rsa.CryptoModule} {serial : Nat} {policy : PolicyId} {b : Bytes} {s t : State}

/-! ## Making keys -/

/-- A key is made exactly from what the generator gives. -/
lemma createKey_eq_ok_iff {format : Jwt.KeyFormat} {key : Jwt.PrivateKey} :
    (jwtSigner serial policy).createKey crypto format s = (.ok key, t)
      ↔ ∃ pair, crypto.generate format.modulusBits.toNat format.publicExponent.toNat = .ok pair
        ∧ key = .ofKeyPair format.algorithm pair
        ∧ t = s.count (.keyGenerated format.modulusBits.toNat) := by
  change format.makeKey crypto s = _ ↔ _
  rw [Jwt.KeyFormat.makeKey, Action.bind_eq_ok]
  constructor
  · rintro ⟨made, u, hmade, hrest⟩
    obtain ⟨hnew, rfl⟩ := Action.ofExcept_eq_ok_iff.1 hmade
    obtain ⟨pair, hpair, rfl⟩ := map_eq_ok_iff.1 hnew
    cases hrest
    exact ⟨pair, Rsa.CryptoModule.newKeyPair_eq_ok_iff.1 hpair, rfl, rfl⟩
  · rintro ⟨pair, hpair, rfl, rfl⟩
    refine ⟨_, s, Action.ofExcept_eq_ok_iff.2 ⟨map_eq_ok_iff.2 ⟨pair, ?_, rfl⟩, rfl⟩, rfl⟩
    exact Rsa.CryptoModule.newKeyPair_eq_ok_iff.2 hpair

/-- A format passes if it keeps the limits under the policy that the manager sees. -/
lemma checkFormat_eq_ok_iff {format : Jwt.KeyFormat} :
    (jwtSigner serial policy).checkFormat format s = (.ok (), t)
      ↔ format.check (s.policy policy) = .ok () ∧ t = s := by
  rw [checkFormat, Action.bind_of_ok (Action.get_apply s), Action.ofKey_eq_ok_iff]

/-- New key data is the record of a key pair that was generated for a format within the limits. -/
lemma newKeyData_eq_ok_iff {data : KeyData} :
    (jwtSigner serial policy).newKeyData crypto b s = (.ok data, t)
      ↔ ∃ format pair, Jwt.KeyFormat.decode? b = some format
        ∧ format.check (s.policy policy) = .ok ()
        ∧ crypto.generate format.modulusBits.toNat format.publicExponent.toNat = .ok pair
        ∧ data = { typeUrl := Jwt.privateKeyType
                   value := (Jwt.PrivateKey.ofKeyPair format.algorithm pair).encode
                   material := .asymmetricPrivate }
        ∧ t = s.count (.keyGenerated format.modulusBits.toNat) := by
  rw [newKeyData, Action.bind_eq_ok]
  constructor
  · rintro ⟨format, u, hformat, hrest⟩
    obtain ⟨hparse, rfl⟩ := Action.ofKey_eq_ok_iff.1 hformat
    obtain ⟨⟨⟩, v, hpass, hmake⟩ := Action.bind_eq_ok.1 hrest
    obtain ⟨hcheck, rfl⟩ := checkFormat_eq_ok_iff.1 hpass
    obtain ⟨key, w, hkey, hdata⟩ := Action.bind_eq_ok.1 hmake
    obtain ⟨pair, hpair, rfl, rfl⟩ := createKey_eq_ok_iff.1 hkey
    cases hdata
    exact ⟨format, pair, Jwt.KeyFormat.parse_eq_ok_iff.1 hparse, hcheck, hpair, rfl, rfl⟩
  · rintro ⟨format, pair, hdecode, hcheck, hpair, rfl, rfl⟩
    refine ⟨format, s, ?_, Action.bind_eq_ok.2 ⟨(), s, ?_, Action.bind_eq_ok.2 ⟨_, _, ?_, rfl⟩⟩⟩
    · exact Action.ofKey_eq_ok_iff.2 ⟨Jwt.KeyFormat.parse_eq_ok_iff.2 hdecode, rfl⟩
    · exact checkFormat_eq_ok_iff.2 ⟨hcheck, rfl⟩
    · exact createKey_eq_ok_iff.2 ⟨pair, hpair, rfl, rfl⟩

/-- From every format that is accepted, whatever its algorithm, comes a key that the manager reads
as it was generated, and of which it gives the public half.  A signer comes from it if and only if
the algorithm is known; the error else is that of the unknown algorithm. -/
theorem newKeyData_outcome (hcrypto : crypto.TellsPrimes)
    (hgen : ∀ format, Jwt.KeyFormat.decode? b = some format →
      crypto.MakesAsAsked format.modulusBits.toNat format.publicExponent.toNat)
    {data : KeyData} (h : (jwtSigner serial policy).newKeyData crypto b s = (.ok data, t)) :
    ∃ format pair key, Jwt.KeyFormat.decode? b = some format
      ∧ crypto.generate format.modulusBits.toNat format.publicExponent.toNat = .ok pair
      ∧ Jwt.PrivateKey.parse data.value = .ok key
      ∧ key.version = 0 ∧ key.pub.version = 0 ∧ key.pub.algorithm = format.algorithm
      ∧ key.pub.customKid = none ∧ key.rsa = pair
      ∧ t.policy policy = s.policy policy
      ∧ ∀ u : State, u.policy policy = s.policy policy →
        (∃ pub, (jwtSigner serial policy).publicKeyData data.value u = (.ok pub, u))
          ∧ ((∃ signer, ((jwtSigner serial policy).primitive crypto data.value u).1
              = .ok (.signer signer)) ↔ ∃ a : Jwt.Algorithm, a.number = format.algorithm.toInt)
          ∧ ((∀ a : Jwt.Algorithm, a.number ≠ format.algorithm.toInt) → ∃ e,
            ((jwtSigner serial policy).primitive crypto data.value u).1 = .error (.key e)
              ∧ e.kind = .keyValidation ∧ e.reason.field? = some "algorithm") := by
  obtain ⟨format, pair, hdecode, hcheck, hpair, rfl, rfl⟩ := newKeyData_eq_ok_iff.1 h
  obtain ⟨hk, hn, he⟩ := hgen format hdecode pair hpair
  have hload := Jwt.PrivateKey.load_ofKeyPair_lt hk
    (by rw [hn]; exact format.modulusBits.toNat_lt) format.algorithm
  have hread : Jwt.PrivateKey.decode? (Jwt.PrivateKey.ofKeyPair format.algorithm pair).encode
      = some (Jwt.PrivateKey.ofKeyPair format.algorithm pair) :=
    (Jwt.PrivateKey.readable_ofKeyPair format.algorithm pair).decode?_encode
      (hload.trans (by decide))
  refine ⟨format, pair, .ofKeyPair format.algorithm pair, hdecode, hpair,
    Jwt.PrivateKey.parse_eq_ok_iff.2 hread, rfl, rfl, rfl, rfl,
    Jwt.PrivateKey.rsa_ofKeyPair _ _, rfl, ?_⟩
  intro u hu
  have hpass : (Jwt.PrivateKey.ofKeyPair format.algorithm pair).check (u.policy policy)
      = .ok () := by
    rw [hu, Jwt.PrivateKey.check_ofKeyPair hn he, hcheck]
  have hcall : (jwtSigner serial policy).primitive crypto
      (Jwt.PrivateKey.ofKeyPair format.algorithm pair).encode u = _ :=
    primitive_of_check hread hpass
  have hconsistent : (Jwt.PrivateKey.ofKeyPair format.algorithm pair).rsa.Consistent
      crypto.isPrime := by
    rwa [Jwt.PrivateKey.rsa_ofKeyPair]
  refine ⟨⟨_, publicKeyData_of_check hread hpass⟩, ?_, ?_⟩
  · simp only [hcall, createPrimitive_eq_signer_iff, Jwt.PrivateKey.exists_signer_iff hcrypto]
    constructor
    · rintro ⟨a, ha, -, -⟩
      exact ⟨a, ha⟩
    · rintro ⟨a, ha⟩
      exact ⟨a, ha, hconsistent, Jwt.PrivateKey.size_le_byteLength hpass a⟩
  · intro hunknown
    have hrefused : (Jwt.PrivateKey.ofKeyPair format.algorithm pair).signer crypto
        = refuse (.unknownAlgorithm format.algorithm.toInt) Jwt.privateKeyType :=
      Jwt.PrivateKey.signer_of_unknown hunknown
    rw [hcall, (createPrimitive_apply ..).1, hrefused]
    exact ⟨_, rfl, rfl, rfl⟩

/-! ## A large key -/

/-- The format that the large key pair has been made for, but for the algorithm. -/
def mersenneFormat (algorithm : Int32) : Jwt.KeyFormat :=
  { algorithm, modulusBits := 2330, publicExponent := [1, 0, 1] }

lemma decode?_mersenneFormat (algorithm : Int32) :
    Jwt.KeyFormat.decode? (mersenneFormat algorithm).encode = some (mersenneFormat algorithm) :=
  Jwt.KeyFormat.Arises.decode?_encode
    (.built ⟨rfl, (by decide : (mersenneFormat 0).load < Jwt.maxBytes)⟩)

lemma bitLength_mersenneKey : bitLength Rsa.mersenneKey.pub.n = 2330 := by
  decide +kernel

lemma generate_mersenneFormat (algorithm : Int32) :
    (Rsa.CryptoModule.exact (some Rsa.mersenneKey)).generate
        (mersenneFormat algorithm).modulusBits.toNat (mersenneFormat algorithm).publicExponent.toNat
      = .ok Rsa.mersenneKey := by
  have hbits : ((mersenneFormat algorithm).modulusBits.toNat : Int) = 2330 := rfl
  have hexponent : ((mersenneFormat algorithm).publicExponent.toNat : Int) = 65537 := rfl
  rw [hbits, hexponent]
  rfl

lemma makesAsAsked_mersenneFormat (algorithm : Int32) (format : Jwt.KeyFormat)
    (h : Jwt.KeyFormat.decode? (mersenneFormat algorithm).encode = some format) :
    (Rsa.CryptoModule.exact (some Rsa.mersenneKey)).MakesAsAsked format.modulusBits.toNat
      format.publicExponent.toNat := by
  obtain rfl := Option.some.inj ((decode?_mersenneFormat algorithm).symm.trans h)
  intro pair hpair
  obtain rfl := Except.ok.inj ((generate_mersenneFormat algorithm).symm.trans hpair)
  exact ⟨Rsa.consistent_mersenneKey _, bitLength_mersenneKey, rfl⟩

/-- The data of the large key, which comes whatever the algorithm is. -/
lemma newKeyData_mersenneFormat (algorithm : Int32) :
    (jwtSigner 0 ⟨0⟩).newKeyData (Rsa.CryptoModule.exact (some Rsa.mersenneKey))
        (mersenneFormat algorithm).encode {}
      = (.ok { typeUrl := Jwt.privateKeyType
               value := (Jwt.PrivateKey.ofKeyPair algorithm Rsa.mersenneKey).encode
               material := .asymmetricPrivate }, ({} : State).count (.keyGenerated 2330)) := by
  have hcheck : (mersenneFormat algorithm).check (({} : State).policy ⟨0⟩) = .ok () :=
    (Jwt.PrivateKey.check_ofKeyPair bitLength_mersenneKey rfl algorithm).symm.trans
      (check_ofKeyPair_mersenneKey algorithm)
  exact newKeyData_eq_ok_iff.2 ⟨_, Rsa.mersenneKey, decode?_mersenneFormat algorithm, hcheck,
    generate_mersenneFormat algorithm, rfl, rfl⟩

/-- A format without an algorithm is accepted, and the key that comes from it gives no signer. -/
theorem newKeyData_without_algorithm :
    (Rsa.CryptoModule.exact (some Rsa.mersenneKey)).TellsPrimes
      ∧ (∀ format, Jwt.KeyFormat.decode? (mersenneFormat 0).encode = some format →
        (Rsa.CryptoModule.exact (some Rsa.mersenneKey)).MakesAsAsked format.modulusBits.toNat
          format.publicExponent.toNat)
      ∧ ∃ data t, (jwtSigner 0 ⟨0⟩).newKeyData (Rsa.CryptoModule.exact (some Rsa.mersenneKey))
          (mersenneFormat 0).encode {} = (.ok data, t)
        ∧ ∀ p, ((jwtSigner 0 ⟨0⟩).primitive (Rsa.CryptoModule.exact (some Rsa.mersenneKey))
          data.value t).1 ≠ .ok p := by
  refine ⟨Rsa.CryptoModule.tellsPrimes_exact _, makesAsAsked_mersenneFormat 0, _, _,
    newKeyData_mersenneFormat 0, fun p hp => ?_⟩
  have hunknown : ∀ a : Jwt.Algorithm,
      a.number ≠ (Jwt.PrivateKey.ofKeyPair 0 Rsa.mersenneKey).pub.algorithm.toInt := by
    intro a
    cases a <;> decide
  have hcheck : (Jwt.PrivateKey.ofKeyPair 0 Rsa.mersenneKey).check
      ((({} : State).count (.keyGenerated 2330)).policy ⟨0⟩) = .ok () :=
    check_ofKeyPair_mersenneKey 0
  rw [primitive_of_check (decode?_ofKeyPair_mersenneKey 0) hcheck, (createPrimitive_apply ..).1,
    Jwt.PrivateKey.signer_of_unknown hunknown] at hp
  cases hp

/-- With an algorithm the same format gives a key with a signer. -/
theorem newKeyData_outcome_mersenneFormat :
    ∃ data t signer, (jwtSigner 0 ⟨0⟩).newKeyData (Rsa.CryptoModule.exact (some Rsa.mersenneKey))
        (mersenneFormat 1).encode {} = (.ok data, t)
      ∧ ((jwtSigner 0 ⟨0⟩).primitive (Rsa.CryptoModule.exact (some Rsa.mersenneKey)) data.value t).1
        = .ok (.signer signer) := by
  obtain ⟨format, pair, key, hdecode, -, -, -, -, -, -, -, hpolicy, husable⟩ := newKeyData_outcome
    (Rsa.CryptoModule.tellsPrimes_exact _) (makesAsAsked_mersenneFormat 1)
    (newKeyData_mersenneFormat 1)
  obtain rfl := Option.some.inj ((decode?_mersenneFormat 1).symm.trans hdecode)
  obtain ⟨-, hsigner, -⟩ := husable _ hpolicy
  obtain ⟨signer, hsigner⟩ := hsigner.2 ⟨.rs256, rfl⟩
  exact ⟨_, _, signer, newKeyData_mersenneFormat 1, hsigner⟩

end Manager

end Keyring
