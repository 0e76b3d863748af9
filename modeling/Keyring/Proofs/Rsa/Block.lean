/-
# The block that is signed

The block of a message is as long as the modulus and begins with a zero byte, so its value is below
the modulus, whatever the number of bits in the modulus.

* `Hash.Algorithm.length_digest` gives the lengths of hash values.
* `Rsa.block?_isSome_iff` says when a block exists: the only bound is on the length of the modulus,
  and no message is too long.
* `Rsa.length_of_block?` and `Rsa.toNat_lt_of_block?` are what signing and verifying need of it.
* `Rsa.hash_eq_of_block?`: a block tells its hash, by the length of the padding alone.
-/
import Keyring.Proofs.Bytes.Integer
import Keyring.Rsa.Signature

namespace Keyring

/-! ## Hash values -/

namespace Hash

lemma Sha256.length_toBytes (s : Sha256.Words) : s.toBytes.length = 32 := by
  simp [Sha256.Words.toBytes]

lemma Sha512.length_toBytes (s : Sha512.Words) : s.toBytes.length = 64 := by
  simp [Sha512.Words.toBytes]

/-- A hash value has the length of its hash. -/
@[simp] lemma Algorithm.length_digest (h : Algorithm) (message : Bytes) :
    (h.digest message).length = h.size := by
  cases h with
  | sha256 => exact Sha256.length_toBytes _
  | sha384 =>
    have h64 := Sha512.length_toBytes
      (Sha512.absorb Sha512.start384 (Sha512.words (Sha512.pad message)))
    rw [Algorithm.digest, Sha512.digest384, List.length_take, h64]
    rfl
  | sha512 => exact Sha512.length_toBytes _

lemma Algorithm.size_injective : Function.Injective Algorithm.size := by
  intro h h' heq
  cases h <;> cases h' <;> first | rfl | cases heq

end Hash

/-! ## Blocks -/

namespace Rsa

variable {hash : Hash.Algorithm} {width : Nat} {message block : Bytes}

/-- There is a block for every message if the width leaves room for eleven bytes beside the labelled
hash value, and else for none. -/
lemma block?_isSome_iff : (block? hash width message).isSome ↔ hash.size + 30 ≤ width := by
  unfold block?
  split
  · simp only [Option.isSome_none, Bool.false_eq_true, false_iff]
    omega
  · simp only [Option.isSome_some, true_iff]
    omega

lemma length_of_block? (h : block? hash width message = some block) : block.length = width := by
  unfold block? at h
  split at h
  · simp at h
  · obtain rfl := Option.some.inj h
    simp only [List.cons_append, List.length_cons, List.length_append, List.length_replicate,
      Hash.Algorithm.label_length, Hash.Algorithm.length_digest]
    omega

/-- A block begins with a zero byte. -/
lemma head_of_block? (h : block? hash width message = some block) :
    ∃ rest, block = 0 :: rest := by
  unfold block? at h
  split at h
  · simp at h
  · exact ⟨_, (Option.some.inj h).symm⟩

/-- The padding of a block ends where the bytes 255 end; its length tells the size of the hash. -/
lemma padding_of_block? (h : block? hash width message = some block) :
    ((block.drop 2).takeWhile (· = 255)).length + (hash.size + 22) = width := by
  have hwidth := block?_isSome_iff.1 (Option.isSome_of_eq_some h)
  unfold block? at h
  split at h
  · cases h
  · obtain rfl := Option.some.inj h
    have hpadding : ∀ b ∈ List.replicate (width - (hash.size + 19) - 3) (255 : UInt8),
        decide (b = 255) = true := by
      intro b hb
      rw [List.eq_of_mem_replicate hb]
      rfl
    rw [List.cons_append, List.cons_append, List.drop_succ_cons, List.drop_succ_cons,
      List.drop_zero, List.takeWhile_append_of_pos hpadding,
      List.takeWhile_cons_of_neg (by decide), List.append_nil, List.length_replicate]
    omega

/-- One block is not the block of two hashes, whatever the messages and the hash values are. -/
lemma hash_eq_of_block? {hash' : Hash.Algorithm} {message' : Bytes}
    (h : block? hash width message = some block)
    (h' : block? hash' width message' = some block) : hash = hash' := by
  have hpadding := padding_of_block? h
  have hpadding' := padding_of_block? h'
  exact Hash.Algorithm.size_injective (by omega)

/-- The value of a block is below every modulus of its width. -/
lemma toNat_lt_of_block? {n : Nat} (h : block? hash (byteLength n) message = some block) :
    block.toNat < n := by
  have hlen := length_of_block? h
  obtain ⟨rest, rfl⟩ := head_of_block? h
  have hn : n ≠ 0 := by
    rintro rfl
    simp [byteLength, bitLength] at hlen
  calc Bytes.toNat (0 :: rest) = Bytes.toNat rest := Bytes.toNat_zero_cons rest
    _ < 256 ^ rest.length := Bytes.toNat_lt rest
    _ = 256 ^ (byteLength n - 1) := by rw [← hlen, List.length_cons, Nat.add_sub_cancel]
    _ ≤ n := pow_byteLength_le hn

end Rsa

end Keyring
