/-
# The two exponents of a key

The parts of a consistent key pair make raising to the private exponent and raising to the public
exponent inverse to each other, on every residue, also on those that share a factor with the
modulus.

* `Rsa.CryptoModule.TellsPrimes` is what is taken for granted about the platform: its test for
  primes is right.
* `Rsa.KeyPair.Consistent.prime_ne` and `Rsa.KeyPair.Consistent.odd_modulus` are what the other
  parts say about the primes: they differ, and neither is two.
* `Rsa.KeyPair.Consistent.pow_exponents_mod` is the law of the exponents, from which
  `Rsa.KeyPair.Consistent.pow_mod_eq_iff` follows.
* `Rsa.mersenneKey` is a key pair that is large enough for every use, and `Rsa.CryptoModule.exact` a
  module under which it is consistent.
-/
import Keyring.Rsa.Key
import Keyring.Rsa.Primality
import Mathlib.FieldTheory.Finite.Basic
import Mathlib.NumberTheory.LucasLehmer

namespace Keyring.Rsa

/-- The module tells the primes. -/
def CryptoModule.TellsPrimes (m : CryptoModule) : Prop :=
  ∀ n, m.isPrime n = true ↔ n.Prime

/-! ## Powers -/

lemma powMod_eq (b e m : Nat) : powMod b e m = b ^ e % m := by
  induction e using Nat.strongRecOn generalizing b with
  | ind e ih =>
    rw [powMod]
    by_cases h0 : e = 0
    · simp [h0]
    · have half : powMod (b * b % m) (e / 2) m = b ^ (2 * (e / 2)) % m := by
        rw [ih (e / 2) (by omega), ← Nat.pow_mod, Nat.pow_mul, Nat.pow_two]
      simp only [h0, if_false, half]
      split
      · rw [show 2 * (e / 2) = e by omega]
      · rw [Nat.mod_mul_mod, ← Nat.pow_succ, show (2 * (e / 2)).succ = e by omega]

/-- Exponents that agree modulo `p - 1` raise a residue modulo a prime to the same power, also the
residue zero, as long as neither of them is zero. -/
lemma pow_modEq_pow {p a b : Nat} (hp : p.Prime) (hab : a ≡ b [MOD p - 1]) (ha : a ≠ 0)
    (hb : b ≠ 0) (x : Nat) : x ^ a ≡ x ^ b [MOD p] := by
  have : Fact p.Prime := ⟨hp⟩
  rw [← ZMod.natCast_eq_natCast_iff, Nat.cast_pow, Nat.cast_pow]
  by_cases hx : (x : ZMod p) = 0
  · rw [hx, zero_pow ha, zero_pow hb]
  · exact pow_eq_pow_of_modEq hab (ZMod.pow_card_sub_one_eq_one hx)

namespace KeyPair.Consistent

variable {isPrime : Nat → Bool} {k : KeyPair}

/-! ## What the parts say -/

lemma usable (hk : k.Consistent isPrime) : k.pub.Usable := hk.1

lemma modulus_eq (hk : k.Consistent isPrime) : k.priv.p * k.priv.q = k.pub.n :=
  hk.2.2.2.1

lemma exponents_mod (hk : k.Consistent isPrime) :
    k.priv.d * k.pub.e % Nat.lcm (k.priv.p - 1) (k.priv.q - 1) = 1 :=
  hk.2.2.2.2.2.2.1

lemma prime_p (hk : k.Consistent isPrime) (hprime : ∀ n, isPrime n = true ↔ n.Prime) :
    k.priv.p.Prime :=
  (hprime _).1 hk.2.2.2.2.2.2.2.1

lemma prime_q (hk : k.Consistent isPrime) (hprime : ∀ n, isPrime n = true ↔ n.Prime) :
    k.priv.q.Prime :=
  (hprime _).1 hk.2.2.2.2.2.2.2.2

/-- The primes differ: the second has an inverse modulo the first. -/
lemma prime_ne (hk : k.Consistent isPrime) : k.priv.p ≠ k.priv.q := by
  obtain ⟨-, -, -, -, -, ⟨-, hcrt⟩, -⟩ := hk
  intro h
  rw [← h, Nat.mul_mod_left] at hcrt
  exact absurd hcrt (by omega)

/-- Neither prime is two: modulo one every exponent is even. -/
lemma prime_ne_two (hk : k.Consistent isPrime) : k.priv.p ≠ 2 ∧ k.priv.q ≠ 2 := by
  obtain ⟨-, -, ⟨hdp, hdq⟩, -, ⟨hp, hq⟩, -⟩ := hk
  constructor
  · intro h
    rw [hp, h, Nat.mod_one] at hdp
    exact absurd hdp (by omega)
  · intro h
    rw [hq, h, Nat.mod_one] at hdq
    exact absurd hdq (by omega)

variable (hk : k.Consistent isPrime) (hprime : ∀ n, isPrime n = true ↔ n.Prime)
include hk hprime

lemma odd_modulus : k.pub.n % 2 = 1 := by
  obtain ⟨hp2, hq2⟩ := hk.prime_ne_two
  have hp := (hk.prime_p hprime).eq_two_or_odd.resolve_left hp2
  have hq := (hk.prime_q hprime).eq_two_or_odd.resolve_left hq2
  rw [← hk.modulus_eq, Nat.mul_mod, hp, hq]

lemma coprime_primes : k.priv.p.Coprime k.priv.q :=
  (Nat.coprime_primes (hk.prime_p hprime) (hk.prime_q hprime)).2 hk.prime_ne

/-! ## The law of the exponents -/

/-- Raising to both exponents one after the other changes no residue modulo the modulus. -/
lemma pow_exponents_mod (x : Nat) : x ^ (k.priv.d * k.pub.e) % k.pub.n = x % k.pub.n := by
  have hde := hk.exponents_mod
  have hne : k.priv.d * k.pub.e ≠ 0 := by
    intro h
    rw [h, Nat.zero_mod] at hde
    exact absurd hde (by omega)
  -- the exponents are inverse modulo the multiple of both `p - 1` and `q - 1`
  have hmod {r : Nat} (hr : r ∣ Nat.lcm (k.priv.p - 1) (k.priv.q - 1)) :
      k.priv.d * k.pub.e % r = 1 % r := by
    rw [← Nat.mod_mod_of_dvd _ hr, hde]
  have hp := pow_modEq_pow (hk.prime_p hprime) (hmod (Nat.dvd_lcm_left _ _)) hne one_ne_zero x
  have hq := pow_modEq_pow (hk.prime_q hprime) (hmod (Nat.dvd_lcm_right _ _)) hne one_ne_zero x
  have h := (Nat.modEq_and_modEq_iff_modEq_mul (hk.coprime_primes hprime)).1 ⟨hp, hq⟩
  rwa [hk.modulus_eq, pow_one] at h

/-- Below the modulus, `y` is `x` raised to the private exponent exactly if `x` is `y` raised to the
public one. -/
lemma pow_mod_eq_iff {x y : Nat} (hx : x < k.pub.n) (hy : y < k.pub.n) :
    y ^ k.pub.e % k.pub.n = x ↔ y = x ^ k.priv.d % k.pub.n := by
  constructor
  · intro h
    rw [← h, ← Nat.pow_mod, ← pow_mul, Nat.mul_comm, hk.pow_exponents_mod hprime,
      Nat.mod_eq_of_lt hy]
  · intro h
    rw [h, ← Nat.pow_mod, ← pow_mul, hk.pow_exponents_mod hprime, Nat.mod_eq_of_lt hx]

end KeyPair.Consistent

/-! ## A key pair -/

/-- A module that tells the primes and hands out one given key pair. -/
def CryptoModule.exact (key : Option KeyPair) : CryptoModule :=
  { CryptoModule.supplying key with isPrime := fun n => decide n.Prime }

lemma CryptoModule.tellsPrimes_exact (key : Option KeyPair) : (exact key).TellsPrimes :=
  fun _ => decide_eq_true_iff

/-- A key pair of 2330 bits from two Mersenne primes. -/
def mersenneKey : KeyPair :=
  let p := 2 ^ 2203 - 1
  let q := 2 ^ 127 - 1
  let d := (21803 * Nat.lcm (p - 1) (q - 1) + 1) / 65537
  { pub := ⟨p * q, 65537⟩
    priv := ⟨d, p, q, d % (p - 1), d % (q - 1),
      (0x77bdef7bdeef7bdef7bdeef7bdef7bde * p + 1) / q⟩ }

lemma consistent_mersenneKey (key : Option KeyPair) :
    mersenneKey.Consistent (CryptoModule.exact key).isPrime := by
  have hp : (CryptoModule.exact key).isPrime (2 ^ 2203 - 1) = true :=
    (CryptoModule.tellsPrimes_exact key _).2
      (lucas_lehmer_sufficiency 2203 (by norm_num) (by norm_num))
  have hq : (CryptoModule.exact key).isPrime (2 ^ 127 - 1) = true :=
    (CryptoModule.tellsPrimes_exact key _).2
      (lucas_lehmer_sufficiency 127 (by norm_num) (by norm_num))
  refine ⟨?_, ?_, ?_, ?_, ?_, ?_, ?_, hp, hq⟩
  all_goals decide +kernel

end Keyring.Rsa
