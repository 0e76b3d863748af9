/-
# The parts that the other parts determine

In a consistent key pair every integer but the private exponent follows from the others, so no other
integer can stand in its place.  The private exponent is determined up to a multiple of the period
of the powers, and a multiple more or less changes no signature.

* `Rsa.Part` are the six integers that follow from the others, and `Rsa.KeyPair.replace` puts
  another integer in the place of one of them.
* `Rsa.KeyPair.Consistent.not_replace`: a replaced part does not belong to the others.
* `Rsa.KeyPair.Consistent.withPrivateExponent_iff`: which private exponents belong to the others.
* `Rsa.KeyPair.Consistent.sign?_withPrivateExponent`: all of them make the same signatures.
-/
import Keyring.Proofs.Rsa.Verification

namespace Keyring.Rsa

/-- An integer of a key pair that follows from the other ones. -/
inductive Part where
  | modulus
  | firstPrime
  | secondPrime
  /-- The private exponent modulo the first prime less one. -/
  | firstExponent
  /-- The private exponent modulo the second prime less one. -/
  | secondExponent
  /-- The inverse of the second prime modulo the first. -/
  | coefficient
deriving DecidableEq

namespace KeyPair

/-- The integer in the place of a part. -/
def part (k : KeyPair) : Part → Nat
  | .modulus => k.pub.n
  | .firstPrime => k.priv.p
  | .secondPrime => k.priv.q
  | .firstExponent => k.priv.dp
  | .secondExponent => k.priv.dq
  | .coefficient => k.priv.crt

/-- The key pair with another integer in the place of a part. -/
def replace (k : KeyPair) (part : Part) (v : Nat) : KeyPair :=
  match part with
  | .modulus => { k with pub := { k.pub with n := v } }
  | .firstPrime => { k with priv := { k.priv with p := v } }
  | .secondPrime => { k with priv := { k.priv with q := v } }
  | .firstExponent => { k with priv := { k.priv with dp := v } }
  | .secondExponent => { k with priv := { k.priv with dq := v } }
  | .coefficient => { k with priv := { k.priv with crt := v } }

/-- The key pair with another private exponent. -/
def withPrivateExponent (k : KeyPair) (d : Nat) : KeyPair :=
  { k with priv := { k.priv with d } }

namespace Consistent

variable {isPrime : Nat → Bool} {k : KeyPair} {hash : Hash.Algorithm} {message : Bytes}

/-! ## Parts that follow -/

lemma reduced_exponents (hk : k.Consistent isPrime) :
    k.priv.dp = k.priv.d % (k.priv.p - 1) ∧ k.priv.dq = k.priv.d % (k.priv.q - 1) :=
  hk.2.2.2.2.1

lemma inverse (hk : k.Consistent isPrime) :
    k.priv.crt < k.priv.p ∧ k.priv.crt * k.priv.q % k.priv.p = 1 :=
  hk.2.2.2.2.2.1

lemma private_lt (hk : k.Consistent isPrime) : k.priv.d < k.pub.n :=
  hk.2.1.1

/-- The private exponent is odd modulo `p - 1`, so it is not zero. -/
lemma private_ne_zero (hk : k.Consistent isPrime) : k.priv.d ≠ 0 := by
  obtain ⟨-, -, ⟨hodd, -⟩, -, ⟨hdp, -⟩, -⟩ := hk
  intro h
  rw [hdp, h, Nat.zero_mod] at hodd
  exact absurd hodd (by omega)

/-- Neither factor of the modulus is zero. -/
lemma factors_pos (hk : k.Consistent isPrime) : 0 < k.priv.p ∧ 0 < k.priv.q := by
  have hn : k.priv.p * k.priv.q ≠ 0 := by
    rw [hk.modulus_eq]
    have := hk.usable.1
    omega
  exact ⟨Nat.pos_of_ne_zero (left_ne_zero_of_mul hn),
    Nat.pos_of_ne_zero (right_ne_zero_of_mul hn)⟩

/-- Below the first prime, the second one has a single inverse. -/
lemma eq_of_inverse {p q c c' : Nat} (hc : c < p) (hc' : c' < p) (h : c * q % p = 1)
    (h' : c' * q % p = 1) : c = c' := by
  have hp : 1 < p := by
    by_contra hp
    have := Nat.mod_lt (c * q) (show 0 < p by omega)
    omega
  have hcop : Nat.Coprime p q :=
    (Nat.coprime_of_mul_modEq_one c (by rw [Nat.ModEq, mul_comm, h, Nat.mod_eq_of_lt hp])).symm
  have hmod : c ≡ c' [MOD p] := by
    refine Nat.ModEq.cancel_right_of_coprime hcop ?_
    rw [Nat.ModEq, h, h']
  exact hmod.eq_of_lt_of_lt hc hc'

/-- With another integer in its place, a part does not belong to the others. -/
lemma not_replace (hk : k.Consistent isPrime) {part : Part} {v : Nat} (hv : v ≠ k.part part) :
    ¬ (k.replace part v).Consistent isPrime := by
  intro hk'
  apply hv
  cases part with
  | modulus => exact hk'.modulus_eq.symm.trans hk.modulus_eq
  | firstPrime =>
    exact Nat.eq_of_mul_eq_mul_right hk.factors_pos.2 (hk'.modulus_eq.trans hk.modulus_eq.symm)
  | secondPrime =>
    exact Nat.eq_of_mul_eq_mul_left hk.factors_pos.1 (hk'.modulus_eq.trans hk.modulus_eq.symm)
  | firstExponent => exact hk'.reduced_exponents.1.trans hk.reduced_exponents.1.symm
  | secondExponent => exact hk'.reduced_exponents.2.trans hk.reduced_exponents.2.symm
  | coefficient => exact eq_of_inverse hk'.inverse.1 hk.inverse.1 hk'.inverse.2 hk.inverse.2

/-! ## Private exponents -/

/-- Another private exponent belongs to the other parts exactly if it is below the modulus and
agrees with the one that is there modulo `p - 1` and `q - 1`. -/
lemma withPrivateExponent_iff (hk : k.Consistent isPrime) (d : Nat) :
    (k.withPrivateExponent d).Consistent isPrime
      ↔ d < k.pub.n ∧ d ≡ k.priv.d [MOD Nat.lcm (k.priv.p - 1) (k.priv.q - 1)] := by
  constructor
  -- the two reduced exponents fix the residues of the private one
  · intro hk'
    have hp : k.priv.d % (k.priv.p - 1) = d % (k.priv.p - 1) :=
      hk.reduced_exponents.1.symm.trans hk'.reduced_exponents.1
    have hq : k.priv.d % (k.priv.q - 1) = d % (k.priv.q - 1) :=
      hk.reduced_exponents.2.symm.trans hk'.reduced_exponents.2
    refine ⟨hk'.private_lt, Int.natCast_modEq_iff.1 ?_⟩
    exact Int.modEq_and_modEq_iff_modEq_lcm.1
      ⟨Int.natCast_modEq_iff.2 hp.symm, Int.natCast_modEq_iff.2 hq.symm⟩
  · rintro ⟨hlt, hmod⟩
    have hp : d % (k.priv.p - 1) = k.priv.d % (k.priv.p - 1) :=
      hmod.of_dvd (Nat.dvd_lcm_left _ _)
    have hq : d % (k.priv.q - 1) = k.priv.d % (k.priv.q - 1) :=
      hmod.of_dvd (Nat.dvd_lcm_right _ _)
    have hinv : d * k.pub.e % Nat.lcm (k.priv.p - 1) (k.priv.q - 1) = 1 :=
      Eq.trans (hmod.mul_right k.pub.e) hk.exponents_mod
    obtain ⟨husable, ⟨-, hbounds⟩, hodd, hfactors, ⟨hdp, hdq⟩, hcrt, -, hprimes⟩ := hk
    exact ⟨husable, ⟨hlt, hbounds⟩, hodd, hfactors, ⟨hdp.trans hp.symm, hdq.trans hq.symm⟩, hcrt,
      hinv, hprimes⟩

/-- Consistent key pairs that differ in the private exponent only make the same signatures. -/
lemma sign?_withPrivateExponent (hk : k.Consistent isPrime)
    (hprime : ∀ n, isPrime n = true ↔ n.Prime) {d : Nat}
    (hk' : (k.withPrivateExponent d).Consistent isPrime) :
    (k.withPrivateExponent d).sign? hash message = k.sign? hash message := by
  obtain ⟨-, hmod⟩ := (hk.withPrivateExponent_iff d).1 hk'
  have hd : d ≠ 0 := hk'.private_ne_zero
  have hpow : ∀ x : Nat, x ^ d % k.pub.n = x ^ k.priv.d % k.pub.n := by
    intro x
    have hp := pow_modEq_pow (hk.prime_p hprime) (hmod.of_dvd (Nat.dvd_lcm_left _ _)) hd
      hk.private_ne_zero x
    have hq := pow_modEq_pow (hk.prime_q hprime) (hmod.of_dvd (Nat.dvd_lcm_right _ _)) hd
      hk.private_ne_zero x
    have h := (Nat.modEq_and_modEq_iff_modEq_mul (hk.coprime_primes hprime)).1 ⟨hp, hq⟩
    rwa [hk.modulus_eq] at h
  simp only [KeyPair.sign?, withPrivateExponent, powMod_eq, hpow]

end Consistent

end KeyPair

end Keyring.Rsa
