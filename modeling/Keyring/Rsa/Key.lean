/-
# RSA keys

A public key is a modulus and an exponent; a key pair adds the private parts.

* `PublicKey.Usable` are the bounds that a public key keeps.
* `KeyPair.Consistent` says when the parts of a key pair belong together: two primes whose product
  is the modulus, exponents inverse to each other, and the three parts for computing modulo the
  primes, each in its least form.
* `CryptoModule` is what the platform supplies: a test for primes and a generator of key pairs,
  which refuses what it does not make and may also fail in other ways.
-/
import Keyring.Rsa.Primality

namespace Keyring.Rsa

/-- A public key. -/
structure PublicKey where
  /-- The modulus. -/
  n : Nat
  /-- The public exponent. -/
  e : Nat
deriving DecidableEq

/-- The private parts of a key. -/
structure PrivateParts where
  /-- The private exponent. -/
  d : Nat
  /-- The first prime. -/
  p : Nat
  /-- The second prime. -/
  q : Nat
  /-- The private exponent modulo `p - 1`. -/
  dp : Nat
  /-- The private exponent modulo `q - 1`. -/
  dq : Nat
  /-- The inverse of `q` modulo `p`. -/
  crt : Nat
deriving DecidableEq

/-- A public key with its private parts. -/
structure KeyPair where
  pub : PublicKey
  priv : PrivateParts
deriving DecidableEq

/-- A modulus of at least three and an odd exponent from three up to the modulus. -/
def PublicKey.Usable (k : PublicKey) : Prop :=
  3 ≤ k.n ∧ 3 ≤ k.e ∧ k.e < k.n ∧ k.e % 2 = 1

instance (k : PublicKey) : Decidable k.Usable := by
  unfold PublicKey.Usable
  infer_instance

/-- The parts of a key pair belong together.  There is no lower limit on the size. -/
def KeyPair.Consistent (isPrime : Nat → Bool) (k : KeyPair) : Prop :=
  k.pub.Usable
    ∧ (k.priv.d < k.pub.n ∧ k.priv.p < k.pub.n ∧ k.priv.q < k.pub.n)
    ∧ (k.priv.dp % 2 = 1 ∧ k.priv.dq % 2 = 1)
    ∧ k.priv.p * k.priv.q = k.pub.n
    ∧ (k.priv.dp = k.priv.d % (k.priv.p - 1) ∧ k.priv.dq = k.priv.d % (k.priv.q - 1))
    ∧ (k.priv.crt < k.priv.p ∧ k.priv.crt * k.priv.q % k.priv.p = 1)
    ∧ k.priv.d * k.pub.e % Nat.lcm (k.priv.p - 1) (k.priv.q - 1) = 1
    ∧ (isPrime k.priv.p = true ∧ isPrime k.priv.q = true)

instance (isPrime : Nat → Bool) (k : KeyPair) : Decidable (k.Consistent isPrime) := by
  unfold KeyPair.Consistent
  infer_instance

/-- How a generator fails. -/
inductive GenerationFailure where
  /-- It does not make keys of this size for this exponent. -/
  | refused
  /-- Something else went wrong in it. -/
  | broken
deriving DecidableEq

/-- What the platform supplies. -/
structure CryptoModule where
  /-- Tells the primes. -/
  isPrime : Nat → Bool
  /-- A new key pair for a modulus size in bits and a public exponent. -/
  generate : (modulusBits exponent : Int) → Except GenerationFailure KeyPair

/-- A module that tests for primes with small bases and hands out one given key pair, whatever the
size; it refuses exponents other than 3 and 65537 and sizes below 1024 bits. -/
def CryptoModule.supplying (key : Option KeyPair) : CryptoModule where
  isPrime := isProbablyPrime
  generate modulusBits exponent :=
    if (exponent = 3 ∨ exponent = 65537) ∧ 1024 ≤ modulusBits then key.elim (throw .refused) pure
    else throw .refused

end Keyring.Rsa
