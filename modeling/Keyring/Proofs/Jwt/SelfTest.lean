/-
# Which key records give a signer

A key record gives a signer if and only if its algorithm is known, its parts belong together and its
modulus is long enough for the hash; the self-test refuses no other record.

* `Jwt.PrivateKey.signer_of_unknown`, `signer_of_inconsistent`, `signer_of_short` and
  `signer_of_consistent` are the four ways in which making a signer ends.
* `Manager.createPrimitive_outcome`: the gate as a whole, with the errors at the closed side.
* `Manager.verify_iff_sign_of_createPrimitive`: under the stored public key, what verifies for a
  message is the signature that the signer makes, and nothing else.
-/
import Keyring.Proofs.Manager.Operations
import Keyring.Proofs.Rsa.Verification

namespace Keyring

namespace Jwt

/-! ## Algorithms by number -/

lemma Algorithm.ofNumber?_number (a : Algorithm) : Algorithm.ofNumber? a.number = some a := by
  cases a <;> rfl

lemma Algorithm.number_injective : Function.Injective Algorithm.number := by
  intro a b h
  have ha := Algorithm.ofNumber?_number a
  rw [h, Algorithm.ofNumber?_number b] at ha
  exact (Option.some.inj ha).symm

lemma Algorithm.ofNumber_number (a : Algorithm) : Algorithm.ofNumber a.number = .ok a := by
  rw [Algorithm.ofNumber, Algorithm.ofNumber?_number]
  rfl

lemma Algorithm.ofNumber_of_unknown {n : Int} (h : ∀ a : Algorithm, a.number ≠ n) :
    Algorithm.ofNumber n = refuse (.unknownAlgorithm n) privateKeyType := by
  have hnone : Algorithm.ofNumber? n = none := by
    rw [Algorithm.ofNumber?, List.find?_eq_none]
    intro a _
    simpa using h a
  rw [Algorithm.ofNumber, hnone]
  rfl

/-! ## Making a signer -/

namespace PrivateKey

variable {crypto : Rsa.CryptoModule} {key : PrivateKey} {a : Algorithm}

/-- A record is accepted if its parts belong together; its public half is then within its bounds. -/
lemma accept_eq (key : PrivateKey) (crypto : Rsa.CryptoModule) :
    key.accept crypto
      = if key.rsa.Consistent crypto.isPrime then .ok (key.rsa, key.pub.rsa)
        else refuse .inconsistentComponents := by
  by_cases hk : key.rsa.Consistent crypto.isPrime
  · have hpub : key.pub.rsa.accept = .ok key.pub.rsa := hk.accept_pub
    rw [accept, Rsa.CryptoModule.acceptKeyPair, hpub, if_pos hk, if_pos hk]
    rfl
  · rw [accept, Rsa.CryptoModule.acceptKeyPair, if_neg hk, if_neg hk]
    rfl

lemma testedKeyPair_of_inconsistent {hash : Hash.Algorithm}
    (hk : ¬ key.rsa.Consistent crypto.isPrime) :
    key.testedKeyPair crypto hash
      = refuse (.componentsRejected Reason.inconsistentComponents.message) privateKeyType := by
  rw [testedKeyPair, accept_eq, if_neg hk]
  rfl

/-- The self-test of a consistent record refuses it only if the modulus is too short. -/
lemma testedKeyPair_of_consistent {hash : Hash.Algorithm} (hcrypto : crypto.TellsPrimes)
    (hk : key.rsa.Consistent crypto.isPrime) :
    key.testedKeyPair crypto hash
      = if hash.size + 30 ≤ byteLength key.pub.n.toNat then .ok key.rsa
        else refuse .probeNotSigned privateKeyType := by
  have htest : Rsa.selfTest key.rsa key.pub.rsa hash
      = if hash.size + 30 ≤ byteLength key.pub.n.toNat then .ok () else refuse .probeNotSigned :=
    hk.selfTest_eq hcrypto
  rw [testedKeyPair, accept_eq, if_pos hk]
  simp only [htest]
  by_cases hsize : hash.size + 30 ≤ byteLength key.pub.n.toNat
  · rw [if_pos hsize, if_pos hsize]
    rfl
  · rw [if_neg hsize, if_neg hsize]
    rfl

lemma signer_of_unknown (h : ∀ a : Algorithm, a.number ≠ key.pub.algorithm.toInt) :
    key.signer crypto
      = refuse (.unknownAlgorithm key.pub.algorithm.toInt) privateKeyType := by
  rw [signer, Algorithm.ofNumber_of_unknown h]
  rfl

/-- With a known algorithm it is the tested key pair that makes the signer. -/
lemma signer_of_known (ha : a.number = key.pub.algorithm.toInt) :
    key.signer crypto
      = (key.testedKeyPair crypto a.hash).map fun pair =>
          { algorithm := a, customKid := key.pub.customKid.map (·.value), key := pair } := by
  rw [signer, ← ha, Algorithm.ofNumber_number]
  change (key.testedKeyPair crypto a.hash >>= fun pair => pure _) = _
  cases key.testedKeyPair crypto a.hash <;> rfl

lemma signer_of_inconsistent (ha : a.number = key.pub.algorithm.toInt)
    (hk : ¬ key.rsa.Consistent crypto.isPrime) :
    key.signer crypto
      = refuse (.componentsRejected Reason.inconsistentComponents.message) privateKeyType := by
  rw [signer_of_known ha, testedKeyPair_of_inconsistent hk]
  rfl

variable (hcrypto : crypto.TellsPrimes) (ha : a.number = key.pub.algorithm.toInt)
  (hk : key.rsa.Consistent crypto.isPrime)
include hcrypto ha hk

lemma signer_of_short (hsize : byteLength key.pub.n.toNat < a.hash.size + 30) :
    key.signer crypto = refuse .probeNotSigned privateKeyType := by
  rw [signer_of_known ha, testedKeyPair_of_consistent hcrypto hk, if_neg (Nat.not_le.2 hsize)]
  rfl

lemma signer_of_consistent (hsize : a.hash.size + 30 ≤ byteLength key.pub.n.toNat) :
    key.signer crypto
      = .ok { algorithm := a, customKid := key.pub.customKid.map (·.value), key := key.rsa } := by
  rw [signer_of_known ha, testedKeyPair_of_consistent hcrypto hk, if_pos hsize]
  rfl

end PrivateKey

/-- Which signer a record gives, if it gives one. -/
lemma PrivateKey.signer_eq_ok_iff {crypto : Rsa.CryptoModule} (hcrypto : crypto.TellsPrimes)
    {key : PrivateKey} {signer : Signer} :
    key.signer crypto = .ok signer
      ↔ signer.algorithm.number = key.pub.algorithm.toInt
        ∧ key.rsa.Consistent crypto.isPrime
        ∧ signer.algorithm.hash.size + 30 ≤ byteLength key.pub.n.toNat
        ∧ signer.customKid = key.pub.customKid.map (·.value)
        ∧ signer.key = key.rsa := by
  constructor
  · intro h
    by_cases hknown : ∃ a : Algorithm, a.number = key.pub.algorithm.toInt
    · obtain ⟨a, ha⟩ := hknown
      by_cases hk : key.rsa.Consistent crypto.isPrime
      · by_cases hsize : a.hash.size + 30 ≤ byteLength key.pub.n.toNat
        · rw [signer_of_consistent hcrypto ha hk hsize] at h
          obtain rfl := Except.ok.inj h
          exact ⟨ha, hk, hsize, rfl, rfl⟩
        · rw [signer_of_short hcrypto ha hk (Nat.not_le.1 hsize)] at h
          cases h
      · rw [signer_of_inconsistent ha hk] at h
        cases h
    · rw [signer_of_unknown (fun a ha => hknown ⟨a, ha⟩)] at h
      cases h
  · rintro ⟨ha, hk, hsize, hkid, hkey⟩
    rw [signer_of_consistent hcrypto ha hk hsize, ← hkid, ← hkey]

/-- A record gives a signer if and only if its algorithm is known, its parts belong together and its
modulus is long enough. -/
lemma PrivateKey.exists_signer_iff {crypto : Rsa.CryptoModule} (hcrypto : crypto.TellsPrimes)
    {key : PrivateKey} :
    (∃ signer, key.signer crypto = .ok signer)
      ↔ ∃ a : Algorithm, a.number = key.pub.algorithm.toInt
        ∧ key.rsa.Consistent crypto.isPrime
        ∧ a.hash.size + 30 ≤ byteLength key.pub.n.toNat := by
  constructor
  · rintro ⟨signer, h⟩
    obtain ⟨ha, hk, hsize, -, -⟩ := (signer_eq_ok_iff hcrypto).1 h
    exact ⟨signer.algorithm, ha, hk, hsize⟩
  · rintro ⟨a, ha, hk, hsize⟩
    exact ⟨_, signer_of_consistent hcrypto ha hk hsize⟩

/-- The self-test refuses the other records with a known algorithm, because of their parts exactly
if these do not belong together. -/
lemma PrivateKey.signer_of_refused {crypto : Rsa.CryptoModule} (hcrypto : crypto.TellsPrimes)
    {key : PrivateKey} {a : Algorithm} (ha : a.number = key.pub.algorithm.toInt)
    (hnot : ¬ (key.rsa.Consistent crypto.isPrime
      ∧ a.hash.size + 30 ≤ byteLength key.pub.n.toNat)) :
    ∃ e, key.signer crypto = .error e ∧ e.kind = .selfTestFailure
      ∧ e.typeUrl? = some privateKeyType
      ∧ (e.reason.cause? = some .invalidKeyComponents ↔ ¬ key.rsa.Consistent crypto.isPrime) := by
  by_cases hk : key.rsa.Consistent crypto.isPrime
  · have hsize : byteLength key.pub.n.toNat < a.hash.size + 30 :=
      Nat.not_le.1 fun hsize => hnot ⟨hk, hsize⟩
    refine ⟨_, signer_of_short hcrypto ha hk hsize, rfl, rfl, ?_⟩
    simp [Reason.cause?, hk]
  · refine ⟨_, signer_of_inconsistent ha hk, rfl, rfl, ?_⟩
    simp [Reason.cause?, hk]

/-- The signer of a record signs every message, and under the public half of the record exactly that
signature verifies. -/
lemma PrivateKey.exists_sign_of_signer {crypto : Rsa.CryptoModule} (hcrypto : crypto.TellsPrimes)
    {key : PrivateKey} {signer : Signer} (h : key.signer crypto = .ok signer) (message : Bytes) :
    ∃ own, signer.sign message = .ok own ∧ ∀ signature,
      key.pub.rsa.verify signer.algorithm.hash message signature = true ↔ signature = own := by
  obtain ⟨-, hk, hsize, -, hkey⟩ := (signer_eq_ok_iff hcrypto).1 h
  have hsome : (key.rsa.sign? signer.algorithm.hash message).isSome :=
    Rsa.KeyPair.sign?_isSome_iff.2 hsize
  obtain ⟨own, hown⟩ := Option.isSome_iff_exists.1 hsome
  refine ⟨own, ?_, fun signature => hk.verify_iff hcrypto hown signature⟩
  rw [Signer.sign, hkey, Rsa.KeyPair.sign, hown]
  rfl

/-- The record of a key pair means that key pair. -/
@[simp] lemma PrivateKey.rsa_ofKeyPair (algorithm : Int32) (pair : Rsa.KeyPair) :
    (PrivateKey.ofKeyPair algorithm pair).rsa = pair := by
  simp [PrivateKey.rsa, PublicKey.rsa, PrivateKey.ofKeyPair, PrivateKey.pub]

/-- The modulus of the large key pair is long enough for the shortest hash. -/
lemma PrivateKey.size_ofKeyPair_mersenneKey (algorithm : Int32) :
    Algorithm.rs256.hash.size + 30
      ≤ byteLength (PrivateKey.ofKeyPair algorithm Rsa.mersenneKey).pub.n.toNat := by
  change _ ≤ byteLength (Bytes.ofNat Rsa.mersenneKey.pub.n).toNat
  rw [Bytes.toNat_ofNat]
  decide +kernel

/-- The signer for the record of the large key pair. -/
lemma PrivateKey.signer_ofKeyPair_mersenneKey :
    (PrivateKey.ofKeyPair 1 Rsa.mersenneKey).signer (Rsa.CryptoModule.exact none)
      = .ok { algorithm := .rs256, customKid := none, key := Rsa.mersenneKey } := by
  have hk : (PrivateKey.ofKeyPair 1 Rsa.mersenneKey).rsa.Consistent
      (Rsa.CryptoModule.exact none).isPrime := by
    rw [rsa_ofKeyPair]
    exact Rsa.consistent_mersenneKey none
  rw [signer_of_consistent (Rsa.CryptoModule.tellsPrimes_exact none) rfl hk
    (size_ofKeyPair_mersenneKey 1), rsa_ofKeyPair]
  rfl

end Jwt

namespace Manager

variable {crypto : Rsa.CryptoModule} {key : Jwt.PrivateKey} {serial : Nat} {policy : PolicyId}

/-! ## The gate -/

/-- A primitive is returned if and only if the algorithm is known, the parts belong together and the
modulus is long enough.  Else the error is that of the unknown algorithm, or a failed self-test,
which is caused by the parts of the key exactly if they do not belong together.  Once the parts were
accepted, so is the public half, and the signature of the probe verifies. -/
theorem createPrimitive_outcome (hcrypto : crypto.TellsPrimes) (serial : Nat) (policy : PolicyId)
    (key : Jwt.PrivateKey) (s : State) :
    ((∃ signer,
          ((jwtSigner serial policy).createPrimitive crypto (.jwt key) s).1 = .ok (.signer signer))
        ↔ ∃ a : Jwt.Algorithm, a.number = key.pub.algorithm.toInt
          ∧ key.rsa.Consistent crypto.isPrime
          ∧ a.hash.size + 30 ≤ byteLength key.pub.n.toNat)
      ∧ ((∀ a : Jwt.Algorithm, a.number ≠ key.pub.algorithm.toInt) → ∃ e,
          ((jwtSigner serial policy).createPrimitive crypto (.jwt key) s).1 = .error (.key e)
            ∧ e.kind = .keyValidation ∧ e.reason.field? = some "algorithm")
      ∧ (∀ a : Jwt.Algorithm, a.number = key.pub.algorithm.toInt →
          ¬ (key.rsa.Consistent crypto.isPrime
            ∧ a.hash.size + 30 ≤ byteLength key.pub.n.toNat) → ∃ e,
          ((jwtSigner serial policy).createPrimitive crypto (.jwt key) s).1 = .error (.key e)
            ∧ e.kind = .selfTestFailure ∧ e.typeUrl? = some Jwt.privateKeyType
            ∧ (e.reason.cause? = some .invalidKeyComponents
              ↔ ¬ key.rsa.Consistent crypto.isPrime))
      ∧ (crypto.acceptKeyPair key.rsa = .ok key.rsa →
          key.pub.rsa.accept = .ok key.pub.rsa
            ∧ ∀ hash name, Rsa.selfTest key.rsa key.pub.rsa hash
              ≠ refuse (.probeNotVerified name)) := by
  have hout := (createPrimitive_apply serial policy crypto key s).1
  refine ⟨?_, ?_, ?_, ?_⟩
  · simp only [createPrimitive_eq_signer_iff]
    exact Jwt.PrivateKey.exists_signer_iff hcrypto
  · intro hunknown
    rw [hout, Jwt.PrivateKey.signer_of_unknown hunknown]
    exact ⟨_, rfl, rfl, rfl⟩
  · intro a ha hnot
    obtain ⟨e, he, hkind, htype, hcause⟩ := Jwt.PrivateKey.signer_of_refused hcrypto ha hnot
    rw [hout, he]
    exact ⟨e, rfl, hkind, htype, hcause⟩
  · intro haccept
    have hk : key.rsa.Consistent crypto.isPrime := by
      by_contra hk
      rw [Rsa.CryptoModule.acceptKeyPair, if_neg hk] at haccept
      cases haccept
    refine ⟨hk.accept_pub, fun hash name h => ?_⟩
    change Rsa.selfTest key.rsa key.rsa.pub hash = _ at h
    rw [hk.selfTest_eq hcrypto] at h
    split at h <;> cases h

/-- The gate opens for a record of a large key pair. -/
theorem createPrimitive_outcome_mersenneKey :
    (Rsa.CryptoModule.exact none).TellsPrimes
      ∧ ∃ signer, ((jwtSigner 0 ⟨0⟩).createPrimitive (Rsa.CryptoModule.exact none)
        (.jwt (.ofKeyPair 1 Rsa.mersenneKey)) {}).1 = .ok (.signer signer) := by
  refine ⟨Rsa.CryptoModule.tellsPrimes_exact none, ?_⟩
  have hgate := createPrimitive_outcome (Rsa.CryptoModule.tellsPrimes_exact none) 0 ⟨0⟩
    (.ofKeyPair 1 Rsa.mersenneKey) {}
  refine hgate.1.2 ⟨.rs256, rfl, ?_, Jwt.PrivateKey.size_ofKeyPair_mersenneKey 1⟩
  rw [Jwt.PrivateKey.rsa_ofKeyPair]
  exact Rsa.consistent_mersenneKey none

/-! ## What a signer signs -/

/-- A signer signs every message, and under the public key that its record stores exactly its own
signature verifies. -/
theorem verify_iff_sign_of_createPrimitive (hcrypto : crypto.TellsPrimes) {signer : Jwt.Signer}
    {s t : State}
    (h : (jwtSigner serial policy).createPrimitive crypto (.jwt key) s
      = (.ok (.signer signer), t))
    (message : Bytes) :
    ∃ own pub, signer.sign message = .ok own
      ∧ Rsa.PublicKey.accept ⟨key.pub.n.toNat, key.pub.e.toNat⟩ = .ok pub
      ∧ ∃ a, Jwt.Algorithm.ofNumber key.pub.algorithm.toInt = .ok a
        ∧ ∀ signature, pub.verify a.hash message signature = true ↔ signature = own := by
  have hs : key.signer crypto = .ok signer :=
    createPrimitive_eq_signer_iff.1 (congrArg Prod.fst h)
  obtain ⟨ha, hk, -, -, -⟩ := (Jwt.PrivateKey.signer_eq_ok_iff hcrypto).1 hs
  obtain ⟨own, hsign, hverify⟩ := Jwt.PrivateKey.exists_sign_of_signer hcrypto hs message
  refine ⟨own, key.pub.rsa, hsign, hk.accept_pub, signer.algorithm, ?_, hverify⟩
  rw [← ha, Jwt.Algorithm.ofNumber_number]

/-- The large key pair signs with one signature only. -/
theorem verify_iff_sign_mersenneKey :
    ∃ (signer : Jwt.Signer) (own : Bytes) (pub : Rsa.PublicKey),
      ((jwtSigner 0 ⟨0⟩).createPrimitive (Rsa.CryptoModule.exact none)
          (.jwt (.ofKeyPair 1 Rsa.mersenneKey)) {}).1 = .ok (.signer signer)
        ∧ signer.sign [] = .ok own
        ∧ (Jwt.PrivateKey.ofKeyPair 1 Rsa.mersenneKey).pub.rsa.accept = .ok pub
        ∧ ∀ signature, pub.verify .sha256 [] signature = true ↔ signature = own := by
  have hout : ((jwtSigner 0 ⟨0⟩).createPrimitive (Rsa.CryptoModule.exact none)
      (.jwt (.ofKeyPair 1 Rsa.mersenneKey)) {}).1 = _ :=
    createPrimitive_eq_signer_iff.2 Jwt.PrivateKey.signer_ofKeyPair_mersenneKey
  obtain ⟨own, pub, hsign, hpub, a, ha, hverify⟩ := verify_iff_sign_of_createPrimitive
    (Rsa.CryptoModule.tellsPrimes_exact none) (Prod.ext hout rfl) []
  obtain rfl : a = .rs256 := Except.ok.inj (ha.symm.trans (Jwt.Algorithm.ofNumber_number .rs256))
  exact ⟨_, own, pub, hout, hsign, hpub, hverify⟩

end Manager

end Keyring
