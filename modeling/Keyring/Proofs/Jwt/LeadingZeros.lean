/-
# Zero bytes in front of the integers of a key

Other systems put zero bytes in front of the integers of a key record.  All that is done with a
record goes by the integers that its fields spell, and never by how long the fields are.

* `Jwt.PrivateKey.SameIntegers` relates two records with the same version, algorithm and custom key
  id whose fields spell the same integers; by `Bytes.toNat_eq_toNat_iff` these fields differ in zero
  bytes in front only.  The unknown fields may differ as they like.
* `PrivateKey.sameIntegers_padded`: any number of zero bytes may stand in front of each field.
* `SameIntegers.rsa_eq` and `SameIntegers.signer_eq`: the two mean one key pair and give one signer.
* `Manager.outcomes_of_sameIntegers`: checking, making signers, signing and key ids are the same.
-/
import Keyring.Proofs.Jwt.KeyIdInput
import Keyring.Proofs.Jwt.SelfTest

namespace Keyring

namespace Jwt

/-- The public halves agree in the algorithm and the custom key id, and spell the same integers. -/
structure PublicKey.SameIntegers (key key' : PublicKey) : Prop where
  algorithm : key.algorithm = key'.algorithm
  customKid : key.customKid.map (·.value) = key'.customKid.map (·.value)
  n : key.n.toNat = key'.n.toNat
  e : key.e.toNat = key'.e.toNat

/-- The records agree in the version, the algorithm and the custom key id, and spell the same
integers. -/
structure PrivateKey.SameIntegers (key key' : PrivateKey) : Prop where
  version : key.version = key'.version
  pub : key.pub.SameIntegers key'.pub
  d : key.d.toNat = key'.d.toNat
  p : key.p.toNat = key'.p.toNat
  q : key.q.toNat = key'.q.toNat
  dp : key.dp.toNat = key'.dp.toNat
  dq : key.dq.toNat = key'.dq.toNat
  crt : key.crt.toNat = key'.crt.toNat

/-- The record with zero bytes in front of its integers, as many as are told for the field. -/
def PrivateKey.padded (key : PrivateKey) (zeros : Nat → Nat) : PrivateKey :=
  let pad (field : Nat) (b : Bytes) : Bytes := List.replicate (zeros field) 0 ++ b
  { key with
    publicKey := some { key.pub with n := pad 0 key.pub.n, e := pad 1 key.pub.e }
    d := pad 2 key.d
    p := pad 3 key.p
    q := pad 4 key.q
    dp := pad 5 key.dp
    dq := pad 6 key.dq
    crt := pad 7 key.crt }

/-- Any number of zero bytes may stand in front of each. -/
lemma PrivateKey.sameIntegers_padded (key : PrivateKey) (zeros : Nat → Nat) :
    key.SameIntegers (key.padded zeros) := by
  have hpad (field : Nat) (b : Bytes) :
      b.toNat = (List.replicate (zeros field) 0 ++ b : Bytes).toNat :=
    (Bytes.toNat_replicate_zero_append _ b).symm
  have hpub : key.pub.SameIntegers (key.padded zeros).pub := ⟨rfl, rfl, hpad 0 _, hpad 1 _⟩
  exact ⟨rfl, hpub, hpad 2 _, hpad 3 _, hpad 4 _, hpad 5 _, hpad 6 _, hpad 7 _⟩

/-! ## Public halves -/

namespace PublicKey.SameIntegers

variable {key key' : PublicKey} (h : key.SameIntegers key')
include h

lemma rsa_eq : key.rsa = key'.rsa := by
  rw [rsa, h.n, h.e, rsa]

/-- The hash is taken of the shortest spellings. -/
lemma keyId_eq : key.keyId = key'.keyId := by
  rw [keyId, keyIdInput_congr h.n h.e, keyId]

lemma kidFor_eq (t : Template) (id : Option Int) : t.kidFor key id = t.kidFor key' id := by
  rw [Template.kidFor, h.keyId_eq, Template.kidFor]

end PublicKey.SameIntegers

/-! ## Private keys -/

namespace PrivateKey.SameIntegers

variable {key key' : PrivateKey} (h : key.SameIntegers key')
include h

lemma rsa_eq : key.rsa = key'.rsa := by
  rw [rsa, h.pub.rsa_eq, h.d, h.p, h.q, h.dp, h.dq, h.crt, rsa]

/-- The size of the modulus is that of the integer, not of its spelling. -/
lemma check_eq (policy : FipsPolicy) : key.check policy = key'.check policy := by
  rw [check, h.version, h.pub.n, h.pub.e, check]

lemma testedKeyPair_eq (crypto : Rsa.CryptoModule) (hash : Hash.Algorithm) :
    key.testedKeyPair crypto hash = key'.testedKeyPair crypto hash := by
  have haccept : key.accept crypto = key'.accept crypto := by
    rw [accept, h.rsa_eq, h.pub.rsa_eq, accept]
  rw [testedKeyPair, haccept, testedKeyPair]

lemma signer_eq (crypto : Rsa.CryptoModule) : key.signer crypto = key'.signer crypto := by
  simp only [signer, h.pub.algorithm, h.pub.customKid, h.testedKeyPair_eq]

lemma makeSigner_eq (crypto : Rsa.CryptoModule) :
    key.makeSigner crypto = key'.makeSigner crypto := by
  have hplain : key.makeSignerPlain crypto = key'.makeSignerPlain crypto := by
    rw [makeSignerPlain, h.signer_eq, makeSignerPlain]
  rw [makeSigner, hplain, makeSigner]

end PrivateKey.SameIntegers

end Jwt

/-! ## What a manager does -/

namespace Manager

/-- Two records that spell the same integers get the same verdict under every policy, and making a
signer ends in the same way, errors, log and counters included.  The two signers, if there are any,
give the same signatures and tokens, whenever they were made, and the key ids are the same. -/
theorem outcomes_of_sameIntegers {key key' : Jwt.PrivateKey} (h : key.SameIntegers key')
    (serial : Nat) (policy : PolicyId) (crypto : Rsa.CryptoModule) :
    (∀ s, (jwtSigner serial policy).checkKey (.jwt key) s
        = (jwtSigner serial policy).checkKey (.jwt key') s)
      ∧ (∀ s, (jwtSigner serial policy).createPrimitive crypto (.jwt key) s
        = (jwtSigner serial policy).createPrimitive crypto (.jwt key') s)
      ∧ (∀ (s s' : State) (signer signer' : Jwt.Signer),
        ((jwtSigner serial policy).createPrimitive crypto (.jwt key) s).1 = .ok (.signer signer) →
        ((jwtSigner serial policy).createPrimitive crypto (.jwt key') s').1
          = .ok (.signer signer') →
        (∀ message, signer.sign message = signer'.sign message)
          ∧ ∀ jwt kid, signer.token jwt kid = signer'.token jwt kid)
      ∧ key.pub.keyId = key'.pub.keyId
      ∧ ∀ (t : Jwt.Template) (id : Option Int), t.kidFor key.pub id = t.kidFor key'.pub id := by
  refine ⟨fun s => ?_, fun s => ?_, ?_, h.pub.keyId_eq, h.pub.kidFor_eq⟩
  · simp only [checkKey, h.check_eq]
  · rw [createPrimitive, h.makeSigner_eq, createPrimitive]
  · intro s s' signer signer' hmake hmake'
    have hsigner := createPrimitive_eq_signer_iff.1 hmake
    have hsigner' := createPrimitive_eq_signer_iff.1 hmake'
    rw [h.signer_eq, hsigner'] at hsigner
    obtain rfl := Except.ok.inj hsigner
    exact ⟨fun _ => rfl, fun _ _ => rfl⟩

/-- The record of the large key pair, with zero bytes in front of every integer. -/
def paddedMersenneKey : Jwt.PrivateKey :=
  (Jwt.PrivateKey.ofKeyPair 1 Rsa.mersenneKey).padded fun field => field + 1

/-- The zero bytes make the record another one, but its signer and its key id stay the same. -/
theorem outcomes_of_sameIntegers_mersenneKey :
    (Jwt.PrivateKey.ofKeyPair 1 Rsa.mersenneKey).SameIntegers paddedMersenneKey
      ∧ Jwt.PrivateKey.ofKeyPair 1 Rsa.mersenneKey ≠ paddedMersenneKey
      ∧ (∃ signer, ((jwtSigner 0 ⟨0⟩).createPrimitive (Rsa.CryptoModule.exact none)
        (.jwt paddedMersenneKey) {}).1 = .ok (.signer signer))
      ∧ paddedMersenneKey.pub.keyId = (Jwt.PrivateKey.ofKeyPair 1 Rsa.mersenneKey).pub.keyId := by
  have h : (Jwt.PrivateKey.ofKeyPair 1 Rsa.mersenneKey).SameIntegers paddedMersenneKey :=
    Jwt.PrivateKey.sameIntegers_padded _ _
  obtain ⟨-, hmake, -, hid, -⟩ :=
    outcomes_of_sameIntegers h 0 ⟨0⟩ (Rsa.CryptoModule.exact none)
  have hsigner : ((jwtSigner 0 ⟨0⟩).createPrimitive (Rsa.CryptoModule.exact none)
      (.jwt (.ofKeyPair 1 Rsa.mersenneKey)) {}).1 = _ :=
    createPrimitive_eq_signer_iff.2 Jwt.PrivateKey.signer_ofKeyPair_mersenneKey
  rw [hmake] at hsigner
  refine ⟨h, fun heq => ?_, ⟨_, hsigner⟩, hid.symm⟩
  have hlength := congrArg (·.d.length) heq
  simp only [paddedMersenneKey, Jwt.PrivateKey.padded, List.length_append,
    List.length_replicate] at hlength
  omega

end Manager

end Keyring
