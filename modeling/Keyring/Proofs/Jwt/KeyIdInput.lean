/-
# What key ids tell apart

A key id is the first four bytes of a hash.  The bytes that are hashed hold the modulus and the
exponent, each behind its length, so no byte can pass from one to the other: two public keys have
the same bytes if and only if they mean the same integers.  In a header a key id has one spelling
for each number modulo 2 ^ 32.

* `lengthAndBytes_append_inj`: the length tells where an integer ends and the rest begins.
* `PublicKey.keyIdInput_eq_iff`: the bytes that are hashed determine the two integers.
* `encodeKeyId_eq_iff`: the spellings of two key ids are the same exactly if the ids are congruent.
* `keyIds_faithful` is all this together.
-/
import Keyring.Proofs.Jwt.KeyIds
import Keyring.Proofs.Text.Base64Url

namespace Keyring.Jwt

/-! ## The bytes that are hashed -/

/-- The lengths of the modulus and the exponent fit in the four bytes before them. -/
structure PublicKey.LengthsFit (key : PublicKey) : Prop where
  n : (Bytes.ofNat key.n.toNat).length < 2 ^ 32
  e : (Bytes.ofNat key.e.toNat).length < 2 ^ 32

/-- The length in front is read first, and it tells how many bytes belong to the integer. -/
lemma lengthAndBytes_append_inj {v v' : Nat} {rest rest' : Bytes}
    (hv : (Bytes.ofNat v).length < 2 ^ 32) (hv' : (Bytes.ofNat v').length < 2 ^ 32)
    (h : lengthAndBytes v ++ rest = lengthAndBytes v' ++ rest') : v = v' ∧ rest = rest' := by
  rw [lengthAndBytes, lengthAndBytes, List.append_assoc, List.append_assoc] at h
  obtain ⟨hfront, hbody⟩ := List.append_inj h
    ((Bytes.ofNatPadded_length _ _).trans (Bytes.ofNatPadded_length _ _).symm)
  have hlength : (Bytes.ofNat v).length = (Bytes.ofNat v').length := by
    have hread := congrArg Bytes.toNat hfront
    rw [Bytes.toNat_ofNatPadded, Bytes.toNat_ofNatPadded] at hread
    omega
  obtain ⟨hspelling, hrest⟩ := List.append_inj hbody hlength
  have hvalue := congrArg Bytes.toNat hspelling
  rw [Bytes.toNat_ofNat, Bytes.toNat_ofNat] at hvalue
  exact ⟨hvalue, hrest⟩

/-- How the two integers are spelled in the key does not matter. -/
lemma PublicKey.keyIdInput_congr {key key' : PublicKey} (hn : key.n.toNat = key'.n.toNat)
    (he : key.e.toNat = key'.e.toNat) : key.keyIdInput = key'.keyIdInput := by
  rw [keyIdInput, hn, he, keyIdInput]

lemma PublicKey.keyIdInput_eq_iff {key key' : PublicKey} (h : key.LengthsFit)
    (h' : key'.LengthsFit) :
    key.keyIdInput = key'.keyIdInput
      ↔ key.n.toNat = key'.n.toNat ∧ key.e.toNat = key'.e.toNat := by
  constructor
  · intro hinput
    obtain ⟨hn, htail⟩ := lengthAndBytes_append_inj h.n h'.n hinput
    -- Nothing follows the exponent.
    rw [← List.append_nil (lengthAndBytes key.e.toNat),
      ← List.append_nil (lengthAndBytes key'.e.toNat)] at htail
    exact ⟨hn, (lengthAndBytes_append_inj h.e h'.e htail).1⟩
  · rintro ⟨hn, he⟩
    exact keyIdInput_congr hn he

/-! ## Key ids in headers -/

lemma length_encodeKeyId (id : Int) : (encodeKeyId id).length = 6 := by
  rw [encodeKeyId, Text.Base64Url.ofBytes, String.length_ofList, Text.Base64Url.length_encode,
    Bytes.ofNatPadded_length]

/-- A key id is read back as four bytes that spell it modulo 2 ^ 32, the most significant first. -/
lemma exists_toBytes?_encodeKeyId (id : Int) :
    ∃ b : Bytes, Text.Base64Url.toBytes? (encodeKeyId id) = some b ∧ b.length = 4
      ∧ (b.toNat : Int) = id % 2 ^ 32 := by
  obtain ⟨b, hencode, hwidth, hvalue⟩ := exists_encodeKeyId id
  exact ⟨b, hencode ▸ Text.Base64Url.toBytes?_ofBytes b, hwidth, hvalue⟩

lemma encodeKeyId_eq_iff {a b : Int} :
    encodeKeyId a = encodeKeyId b ↔ a % 2 ^ 32 = b % 2 ^ 32 := by
  constructor
  · intro h
    obtain ⟨bytes, hread, -, hvalue⟩ := exists_toBytes?_encodeKeyId a
    obtain ⟨bytes', hread', -, hvalue'⟩ := exists_toBytes?_encodeKeyId b
    rw [h, hread'] at hread
    obtain rfl := Option.some.inj hread
    rw [← hvalue, ← hvalue']
  · intro h
    have hlow : a % 0x100000000 = b % 0x100000000 := h
    rw [encodeKeyId, hlow, encodeKeyId]

/-! ## Both -/

/-- A key id is the number that the first four bytes of a SHA-256 hash spell, and what is hashed is
the same for two public keys exactly if they mean the same integers.  The spelling of a key id, of
any sign and size, is six characters that may stand in a URL and are read back as its four low
bytes; so two spellings are the same exactly if the ids are congruent. -/
theorem keyIds_faithful :
    (∀ key : PublicKey,
        key.keyId = Bytes.toNat ((Hash.Sha256.digest key.keyIdInput).take 4))
      ∧ (∀ key key' : PublicKey, key.LengthsFit → key'.LengthsFit →
        (key.keyIdInput = key'.keyIdInput
          ↔ key.n.toNat = key'.n.toNat ∧ key.e.toNat = key'.e.toNat))
      ∧ ∀ a b : Int,
        (encodeKeyId a).length = 6
          ∧ (∀ c ∈ (encodeKeyId a).toList, c ∈ Text.Base64Url.alphabet)
          ∧ (∃ bytes : Bytes, Text.Base64Url.toBytes? (encodeKeyId a) = some bytes
            ∧ bytes.length = 4 ∧ (bytes.toNat : Int) = a % 2 ^ 32)
          ∧ (encodeKeyId a = encodeKeyId b ↔ a % 2 ^ 32 = b % 2 ^ 32) := by
  refine ⟨fun key => rfl, fun key key' h h' => PublicKey.keyIdInput_eq_iff h h', ?_⟩
  intro a b
  have hurl : ∀ c ∈ (encodeKeyId a).toList, c ∈ Text.Base64Url.alphabet := by
    intro c hc
    exact Text.Base64Url.mem_alphabet_of_mem_ofBytes hc
  exact ⟨length_encodeKeyId a, hurl, exists_toBytes?_encodeKeyId a, encodeKeyId_eq_iff⟩

/-- A byte that passes from the modulus to the exponent makes another input, zero bytes in front do
not, and a negative key id is written like the number it is congruent to. -/
theorem keyIds_faithful_shiftedByte :
    ({ n := [1, 2], e := [3] } : PublicKey).keyIdInput
        ≠ ({ n := [1], e := [2, 3] } : PublicKey).keyIdInput
      ∧ ({ n := [0, 0, 1, 2], e := [3] } : PublicKey).keyIdInput
        = ({ version := 1, n := [1, 2], e := [0, 3] } : PublicKey).keyIdInput
      ∧ encodeKeyId (-1) = encodeKeyId 4294967295 := by
  have hfit : ∀ v < 256 ^ 4, (Bytes.ofNat v).length < 2 ^ 32 := fun v hv =>
    Nat.lt_of_le_of_lt (Bytes.length_ofNat_le hv) (by decide)
  refine ⟨fun h => ?_, ?_, ?_⟩
  · have hsame := (keyIds_faithful.2.1 _ _ ⟨hfit _ (by decide), hfit _ (by decide)⟩
      ⟨hfit _ (by decide), hfit _ (by decide)⟩).1 h
    exact absurd hsame (by decide)
  · exact (keyIds_faithful.2.1 _ _ ⟨hfit _ (by decide), hfit _ (by decide)⟩
      ⟨hfit _ (by decide), hfit _ (by decide)⟩).2 (by decide)
  · exact (keyIds_faithful.2.2 (-1) 4294967295).2.2.2.2 (by decide)

end Keyring.Jwt
