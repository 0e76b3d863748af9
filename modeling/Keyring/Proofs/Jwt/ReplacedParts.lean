/-
# Key records with a replaced part

A record that gives a signer gives none once a part of it means another integer, whichever of the
parts it is and whatever the integer.  The private exponent is the exception: it may be any of the
exponents below the modulus that make the same signatures.

* `Jwt.PrivateKey.replace` and `Jwt.PrivateKey.withPrivateExponent` put other bytes into a record.
* `Manager.PartsRejected` is the outcome for a record whose parts do not belong together.
* `Manager.createPrimitive_of_replaced` is the statement about all the parts.
-/
import Keyring.Proofs.Jwt.SelfTest
import Keyring.Proofs.Rsa.Parts

namespace Keyring

namespace Jwt.PrivateKey

variable {crypto : Rsa.CryptoModule} {key : PrivateKey} {part : Rsa.Part} {b : Bytes}

/-- The record with other bytes for a part, and all else as it was. -/
def replace (key : PrivateKey) (part : Rsa.Part) (b : Bytes) : PrivateKey :=
  match part with
  | .modulus => { key with publicKey := some { key.pub with n := b } }
  | .firstPrime => { key with p := b }
  | .secondPrime => { key with q := b }
  | .firstExponent => { key with dp := b }
  | .secondExponent => { key with dq := b }
  | .coefficient => { key with crt := b }

/-- The record with other bytes for the private exponent. -/
def withPrivateExponent (key : PrivateKey) (b : Bytes) : PrivateKey :=
  { key with d := b }

@[simp] lemma rsa_replace : (key.replace part b).rsa = key.rsa.replace part b.toNat := by
  cases part <;> rfl

@[simp] lemma rsa_withPrivateExponent :
    (key.withPrivateExponent b).rsa = key.rsa.withPrivateExponent b.toNat := rfl

@[simp] lemma algorithm_replace : (key.replace part b).pub.algorithm = key.pub.algorithm := by
  cases part <;> rfl

/-- A private exponent that belongs to the other parts gives a signer with the same signatures. -/
lemma signer_withPrivateExponent (hcrypto : crypto.TellsPrimes) {signer : Signer}
    (h : key.signer crypto = .ok signer)
    (hk : (key.withPrivateExponent b).rsa.Consistent crypto.isPrime) :
    ∃ other, (key.withPrivateExponent b).signer crypto = .ok other
      ∧ ∀ message, other.sign message = signer.sign message := by
  obtain ⟨ha, hown, hsize, -, hkey⟩ := (signer_eq_ok_iff hcrypto).1 h
  refine ⟨_, signer_of_consistent hcrypto ha hk hsize, fun message => ?_⟩
  rw [rsa_withPrivateExponent] at hk
  rw [Signer.sign, Signer.sign, hkey, Rsa.KeyPair.sign, Rsa.KeyPair.sign,
    rsa_withPrivateExponent, hown.sign?_withPrivateExponent hcrypto hk]

end Jwt.PrivateKey

namespace Manager

variable {crypto : Rsa.CryptoModule} {key : Jwt.PrivateKey} {serial : Nat} {policy : PolicyId}
  {s t : State}

/-- A self-test that failed because the parts of the key do not belong together. -/
def PartsRejected (outcome : Except Failure Primitive) : Prop :=
  ∃ e, outcome = .error (.key e) ∧ e.kind = .selfTestFailure
    ∧ e.reason.cause? = some .invalidKeyComponents ∧ e.typeUrl? = some Jwt.privateKeyType

lemma partsRejected_of_inconsistent {a : Jwt.Algorithm} (ha : a.number = key.pub.algorithm.toInt)
    (hk : ¬ key.rsa.Consistent crypto.isPrime) :
    PartsRejected ((jwtSigner serial policy).createPrimitive crypto (.jwt key) s).1 := by
  rw [(createPrimitive_apply serial policy crypto key s).1,
    Jwt.PrivateKey.signer_of_inconsistent ha hk]
  exact ⟨_, rfl, rfl, rfl, rfl⟩

/-- Once a key gives a signer, no other integer can stand in the place of its modulus, of one of its
primes, of one of the two reduced exponents or of the coefficient.  In the place of its private
exponent stands exactly what is below the modulus and agrees with it modulo `lcm (p - 1) (q - 1)`;
the signer for that makes the same signatures, and everything else is rejected, too. -/
theorem createPrimitive_of_replaced (hcrypto : crypto.TellsPrimes) {signer : Jwt.Signer}
    (h : (jwtSigner serial policy).createPrimitive crypto (.jwt key) s
      = (.ok (.signer signer), t))
    (u : State) :
    (∀ (part : Rsa.Part) (b : Bytes), b.toNat ≠ key.rsa.part part →
        PartsRejected
          ((jwtSigner serial policy).createPrimitive crypto (.jwt (key.replace part b)) u).1)
      ∧ ∀ b : Bytes,
        ((∃ other, ((jwtSigner serial policy).createPrimitive crypto
              (.jwt (key.withPrivateExponent b)) u).1 = .ok (.signer other))
            ↔ b.toNat < key.pub.n.toNat
              ∧ b.toNat ≡ key.d.toNat [MOD Nat.lcm (key.p.toNat - 1) (key.q.toNat - 1)])
          ∧ (∀ other, ((jwtSigner serial policy).createPrimitive crypto
              (.jwt (key.withPrivateExponent b)) u).1 = .ok (.signer other) →
            ∀ message, other.sign message = signer.sign message)
          ∧ (¬ (b.toNat < key.pub.n.toNat
              ∧ b.toNat ≡ key.d.toNat [MOD Nat.lcm (key.p.toNat - 1) (key.q.toNat - 1)]) →
            PartsRejected ((jwtSigner serial policy).createPrimitive crypto
              (.jwt (key.withPrivateExponent b)) u).1) := by
  have hs : key.signer crypto = .ok signer :=
    createPrimitive_eq_signer_iff.1 (congrArg Prod.fst h)
  obtain ⟨ha, hk, -⟩ := (Jwt.PrivateKey.signer_eq_ok_iff hcrypto).1 hs
  refine ⟨fun part b hb => ?_, fun b => ?_⟩
  · refine partsRejected_of_inconsistent (ha.trans ?_) ?_
    · rw [Jwt.PrivateKey.algorithm_replace]
    · rw [Jwt.PrivateKey.rsa_replace]
      exact hk.not_replace hb
  have hfits : (key.withPrivateExponent b).rsa.Consistent crypto.isPrime
      ↔ b.toNat < key.pub.n.toNat
        ∧ b.toNat ≡ key.d.toNat [MOD Nat.lcm (key.p.toNat - 1) (key.q.toNat - 1)] :=
    hk.withPrivateExponent_iff b.toNat
  simp only [createPrimitive_eq_signer_iff]
  rw [← hfits]
  refine ⟨⟨?_, ?_⟩, ?_, fun hnot => partsRejected_of_inconsistent ha hnot⟩
  · rintro ⟨other, hother⟩
    exact ((Jwt.PrivateKey.signer_eq_ok_iff hcrypto).1 hother).2.1
  · intro hk'
    obtain ⟨other, hother, -⟩ := Jwt.PrivateKey.signer_withPrivateExponent hcrypto hs hk'
    exact ⟨other, hother⟩
  · intro other hother
    have hk' := ((Jwt.PrivateKey.signer_eq_ok_iff hcrypto).1 hother).2.1
    obtain ⟨other', hother', hsame⟩ := Jwt.PrivateKey.signer_withPrivateExponent hcrypto hs hk'
    obtain rfl : other' = other := Except.ok.inj (hother'.symm.trans hother)
    exact hsame

/-- The private exponent of the large key pair with `lcm (p - 1) (q - 1)` added to it makes the same
signatures; zero in its place, or in the place of the coefficient, is rejected. -/
theorem createPrimitive_of_replaced_mersenneKey :
    ∃ (signer other : Jwt.Signer) (b : Bytes),
      ((jwtSigner 0 ⟨0⟩).createPrimitive (Rsa.CryptoModule.exact none)
          (.jwt (.ofKeyPair 1 Rsa.mersenneKey)) {}).1 = .ok (.signer signer)
        ∧ b.toNat ≠ Rsa.mersenneKey.priv.d
        ∧ ((jwtSigner 0 ⟨0⟩).createPrimitive (Rsa.CryptoModule.exact none)
          (.jwt ((Jwt.PrivateKey.ofKeyPair 1 Rsa.mersenneKey).withPrivateExponent b)) {}).1
            = .ok (.signer other)
        ∧ (∀ message, other.sign message = signer.sign message)
        ∧ PartsRejected ((jwtSigner 0 ⟨0⟩).createPrimitive (Rsa.CryptoModule.exact none)
          (.jwt ((Jwt.PrivateKey.ofKeyPair 1 Rsa.mersenneKey).withPrivateExponent [0])) {}).1
        ∧ PartsRejected ((jwtSigner 0 ⟨0⟩).createPrimitive (Rsa.CryptoModule.exact none)
          (.jwt ((Jwt.PrivateKey.ofKeyPair 1 Rsa.mersenneKey).replace .coefficient [0])) {}).1 := by
  have hout : ((jwtSigner 0 ⟨0⟩).createPrimitive (Rsa.CryptoModule.exact none)
      (.jwt (.ofKeyPair 1 Rsa.mersenneKey)) {}).1 = _ :=
    createPrimitive_eq_signer_iff.2 Jwt.PrivateKey.signer_ofKeyPair_mersenneKey
  obtain ⟨hparts, hexponent⟩ := createPrimitive_of_replaced
    (Rsa.CryptoModule.tellsPrimes_exact none) (Prod.ext hout rfl) {}
  -- what the record spells are the integers of the key pair
  have hrsa : (Jwt.PrivateKey.ofKeyPair 1 Rsa.mersenneKey).rsa = Rsa.mersenneKey :=
    Jwt.PrivateKey.rsa_ofKeyPair 1 Rsa.mersenneKey
  have hn : (Jwt.PrivateKey.ofKeyPair 1 Rsa.mersenneKey).pub.n.toNat = Rsa.mersenneKey.pub.n :=
    congrArg (·.pub.n) hrsa
  have hd : (Jwt.PrivateKey.ofKeyPair 1 Rsa.mersenneKey).d.toNat = Rsa.mersenneKey.priv.d :=
    congrArg (·.priv.d) hrsa
  have hp : (Jwt.PrivateKey.ofKeyPair 1 Rsa.mersenneKey).p.toNat = Rsa.mersenneKey.priv.p :=
    congrArg (·.priv.p) hrsa
  have hq : (Jwt.PrivateKey.ofKeyPair 1 Rsa.mersenneKey).q.toNat = Rsa.mersenneKey.priv.q :=
    congrArg (·.priv.q) hrsa
  simp only [hn, hd, hp, hq] at hexponent
  have hcrt : Bytes.toNat [0]
      ≠ (Jwt.PrivateKey.ofKeyPair 1 Rsa.mersenneKey).rsa.part .coefficient := by
    rw [hrsa]
    decide +kernel
  have hzero : ¬ (Bytes.toNat [0] < Rsa.mersenneKey.pub.n
      ∧ Bytes.toNat [0] ≡ Rsa.mersenneKey.priv.d
        [MOD Nat.lcm (Rsa.mersenneKey.priv.p - 1) (Rsa.mersenneKey.priv.q - 1)]) := by
    decide +kernel
  have hmore : (Rsa.mersenneKey.priv.d
        + Nat.lcm (Rsa.mersenneKey.priv.p - 1) (Rsa.mersenneKey.priv.q - 1))
        ≠ Rsa.mersenneKey.priv.d
      ∧ (Rsa.mersenneKey.priv.d
        + Nat.lcm (Rsa.mersenneKey.priv.p - 1) (Rsa.mersenneKey.priv.q - 1))
        < Rsa.mersenneKey.pub.n := by
    decide +kernel
  have hb := Bytes.toNat_ofNat (Rsa.mersenneKey.priv.d
    + Nat.lcm (Rsa.mersenneKey.priv.p - 1) (Rsa.mersenneKey.priv.q - 1))
  obtain ⟨other, hother⟩ := (hexponent (Bytes.ofNat _)).1.2 ⟨by rw [hb]; exact hmore.2, by
    rw [hb]
    exact Nat.add_modEq_right⟩
  refine ⟨_, other, _, hout, ?_, hother, (hexponent _).2.1 other hother,
    (hexponent [0]).2.2 hzero, hparts .coefficient [0] hcrt⟩
  rw [hb]
  exact hmore.1

end Manager

end Keyring
