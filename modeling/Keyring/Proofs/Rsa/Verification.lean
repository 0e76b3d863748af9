/-
# Signing and verifying

Under the public half of a consistent key pair exactly one byte string verifies for a message: the
one that the private half makes.

* `Rsa.KeyPair.sign?_isSome_iff`: signing depends on the lengths of hash and modulus only.
* `Rsa.KeyPair.Consistent.accept_pub`: the public half is accepted on its own.
* `Rsa.KeyPair.Consistent.verify_iff`: what verifies is the signature, byte for byte.
* `Rsa.PublicKey.hash_eq_of_verify`: no byte string verifies under two hashes.
* `Rsa.KeyPair.Consistent.selfTest_eq`: so the self-test of a consistent key pair under its own
  public half can fail for no other reason than a short modulus.
-/
import Keyring.Proofs.Rsa.Block
import Keyring.Proofs.Rsa.Exponent
import Keyring.Rsa.Operations

namespace Keyring.Rsa

variable {k : KeyPair} {hash : Hash.Algorithm} {message : Bytes}

/-- A key pair signs every message or none. -/
lemma KeyPair.sign?_isSome_iff :
    (k.sign? hash message).isSome ↔ hash.size + 30 ≤ byteLength k.pub.n := by
  rw [KeyPair.sign?, Option.isSome_map, block?_isSome_iff]

lemma KeyPair.sign?_eq_none_iff :
    k.sign? hash message = none ↔ byteLength k.pub.n < hash.size + 30 := by
  rw [← Option.not_isSome_iff_eq_none, KeyPair.sign?_isSome_iff]
  omega

/-- A residue modulo `n` fits into the bytes of `n`. -/
lemma toNat_ofNatPadded_of_lt {n v : Nat} (h : v < n) :
    (Bytes.ofNatPadded (byteLength n) v).toNat = v := by
  rw [Bytes.toNat_ofNatPadded, Nat.mod_eq_of_lt (h.trans (lt_pow_byteLength n))]

/-- What verifies for a message is raised to the block of the message. -/
lemma PublicKey.block?_of_verify {pub : PublicKey} {signature : Bytes}
    (h : pub.verify hash message signature = true) :
    block? hash (byteLength pub.n) message
      = some (Bytes.ofNatPadded (byteLength pub.n) (powMod signature.toNat pub.e pub.n)) := by
  rw [PublicKey.verify, Bool.and_eq_true, beq_iff_eq] at h
  exact h.2

/-- A byte string verifies under one hash only, whatever the messages are. -/
lemma PublicKey.hash_eq_of_verify {pub : PublicKey} {hash' : Hash.Algorithm}
    {message' signature : Bytes} (h : pub.verify hash message signature = true)
    (h' : pub.verify hash' message' signature = true) : hash = hash' :=
  hash_eq_of_block? (block?_of_verify h) (block?_of_verify h')

namespace KeyPair.Consistent

variable {isPrime : Nat → Bool} {own : Bytes}

/-- The public half of a consistent key pair is within its bounds. -/
lemma accept_pub (hk : k.Consistent isPrime) : k.pub.accept = .ok k.pub :=
  if_pos hk.usable

/-- A byte string verifies for a message exactly if it is the signature. -/
lemma verify_iff (hk : k.Consistent isPrime) (hprime : ∀ n, isPrime n = true ↔ n.Prime)
    (h : k.sign? hash message = some own) (signature : Bytes) :
    k.pub.verify hash message signature = true ↔ signature = own := by
  obtain ⟨block, hblock, rfl⟩ := Option.map_eq_some_iff.1 h
  have hn : 0 < k.pub.n := by have := hk.usable.1; omega
  have hx := toNat_lt_of_block? hblock
  have hlen := length_of_block? hblock
  rw [PublicKey.verify, hblock, hk.odd_modulus hprime, powMod_eq, powMod_eq]
  simp only [beq_self_eq_true, Bool.true_and, Bool.and_eq_true, beq_iff_eq, decide_eq_true_eq,
    Option.some.injEq]
  constructor
  -- a signature is the only residue whose power is the block, and the width fixes its spelling
  · rintro ⟨⟨hwidth, hlt⟩, heq⟩
    have hpow : signature.toNat ^ k.pub.e % k.pub.n = block.toNat := by
      rw [heq, toNat_ofNatPadded_of_lt (Nat.mod_lt _ hn)]
    rw [← (hk.pow_mod_eq_iff hprime hx hlt).1 hpow, ← hwidth, Bytes.ofNatPadded_toNat]
  · rintro rfl
    have hlt : block.toNat ^ k.priv.d % k.pub.n < k.pub.n := Nat.mod_lt _ hn
    refine ⟨⟨Bytes.ofNatPadded_length _ _, by rwa [toNat_ofNatPadded_of_lt hlt]⟩, ?_⟩
    rw [toNat_ofNatPadded_of_lt hlt, (hk.pow_mod_eq_iff hprime hx hlt).2 rfl, ← hlen,
      Bytes.ofNatPadded_toNat]

/-- The self-test of a consistent key pair under its own public half fails only if the modulus is
too short for the hash. -/
lemma selfTest_eq (hk : k.Consistent isPrime) (hprime : ∀ n, isPrime n = true ↔ n.Prime) :
    selfTest k k.pub hash
      = if hash.size + 30 ≤ byteLength k.pub.n then .ok () else refuse .probeNotSigned := by
  rw [selfTest]
  cases h : k.sign? hash probe with
  | none =>
    rw [if_neg (by have := KeyPair.sign?_eq_none_iff.1 h; omega)]
  | some own =>
    have hsize := KeyPair.sign?_isSome_iff.1 (Option.isSome_iff_exists.2 ⟨own, h⟩)
    simp only [(hk.verify_iff hprime h own).2 rfl, hsize, if_true]
    rfl

end KeyPair.Consistent

end Keyring.Rsa
