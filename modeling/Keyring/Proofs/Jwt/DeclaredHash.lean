/-
# Signatures under other hashes

A signature verifies under the hash that the key declares and under no other one, whatever message
it is held against.  Nothing is taken for granted about the hash values for that: the length of
the padding in the signed block tells the hash.

* `Manager.verify_eq_false_of_other_hash` says so of the signatures of a signer and of its tokens,
  whose header names the only algorithm under which the third part can verify.
-/
import Keyring.Proofs.Jwt.Signing

namespace Keyring

namespace Jwt.Algorithm

lemma hash_injective : Function.Injective hash := by
  intro a b h
  cases a <;> cases b <;> first | rfl | cases h

lemma name_injective : Function.Injective name := by
  intro a b h
  cases a <;> cases b <;> first | rfl | exact absurd h (by decide)

end Jwt.Algorithm

namespace Manager

variable {crypto : Rsa.CryptoModule} {key : Jwt.PrivateKey} {serial : Nat} {policy : PolicyId}
  {s t : State}

/-- Under the stored public key of a signer, a signature that it makes verifies for no message under
another hash than the declared one.  So the header of a token names the one algorithm under which
the signature of the token verifies for any message. -/
theorem verify_eq_false_of_other_hash (hcrypto : crypto.TellsPrimes) {signer : Jwt.Signer}
    (h : (jwtSigner serial policy).createPrimitive crypto (.jwt key) s
      = (.ok (.signer signer), t)) :
    ∃ (pub : Rsa.PublicKey) (a : Jwt.Algorithm),
      Rsa.PublicKey.accept ⟨key.pub.n.toNat, key.pub.e.toNat⟩ = .ok pub
        ∧ Jwt.Algorithm.ofNumber key.pub.algorithm.toInt = .ok a
        ∧ (∀ message, ∃ signature, signer.sign message = .ok signature
          ∧ ∀ hash, hash ≠ a.hash → ∀ message', pub.verify hash message' signature = false)
        ∧ ∀ (jwt : Jwt.RawJwt) (kid : Option String) (token : String),
            signer.token jwt kid = .ok token →
          ∃ header payload third signature members,
            Jwt.parts token = [header, payload, third]
              ∧ Text.Base64Url.toBytes? third = some signature
              ∧ Jwt.readHeader? header = some (.object members)
              ∧ (∀ value, ("alg", value) ∈ members ↔ value = .text a.name)
              ∧ ∀ b : Jwt.Algorithm, (∃ message, pub.verify b.hash message signature = true)
                ↔ ("alg", .text b.name) ∈ members := by
  have hs : key.signer crypto = .ok signer :=
    createPrimitive_eq_signer_iff.1 (congrArg Prod.fst h)
  obtain ⟨ha, hk, -⟩ := (Jwt.PrivateKey.signer_eq_ok_iff hcrypto).1 hs
  -- every signature verifies under the declared hash, which leaves no room for another one
  have hown := Jwt.PrivateKey.exists_sign_of_signer hcrypto hs
  refine ⟨key.pub.rsa, signer.algorithm, hk.accept_pub, ?_, fun message => ?_, ?_⟩
  · rw [← ha, Jwt.Algorithm.ofNumber_number]
  · obtain ⟨own, hsign, hverify⟩ := hown message
    refine ⟨own, hsign, fun hash hne message' => ?_⟩
    by_contra hother
    rw [Bool.not_eq_false] at hother
    exact hne (Rsa.PublicKey.hash_eq_of_verify hother ((hverify own).2 rfl))
  intro jwt kid token htoken
  obtain ⟨headerKid, payload, -, hwith⟩ := Jwt.Signer.exists_tokenWith htoken
  obtain ⟨first, second, third, hparts, ⟨sorted, hperm, hheader⟩, -, signature, hthird, hsign⟩ :=
    hwith.parts
  obtain ⟨own, hsign', hverify⟩ := hown (Bytes.ofText (first ++ "." ++ second))
  obtain rfl : own = signature := Except.ok.inj (hsign'.symm.trans hsign)
  refine ⟨first, second, third, own, _, hparts, hthird, hheader, Jwt.alg_mem_iff hperm, ?_⟩
  intro b
  rw [Jwt.alg_mem_iff hperm, Json.Tree.text.injEq]
  constructor
  · rintro ⟨message, hb⟩
    have hhash := Rsa.PublicKey.hash_eq_of_verify hb ((hverify own).2 rfl)
    rw [Jwt.Algorithm.hash_injective hhash]
  · intro hname
    rw [Jwt.Algorithm.name_injective hname]
    exact ⟨_, (hverify own).2 rfl⟩

/-- The signature of a token of the large key verifies as RS256 for some message, and neither as
RS384 nor as RS512 for any. -/
theorem verify_eq_false_mersenneKey :
    ∃ (signer : Jwt.Signer) (pub : Rsa.PublicKey) (token third : String) (signature : Bytes),
      ((jwtSigner 0 ⟨0⟩).createPrimitive (Rsa.CryptoModule.exact none)
          (.jwt (.ofKeyPair 1 Rsa.mersenneKey)) {}).1 = .ok (.signer signer)
        ∧ (Jwt.PrivateKey.ofKeyPair 1 Rsa.mersenneKey).pub.rsa.accept = .ok pub
        ∧ signer.token {} = .ok token ∧ third ∈ Jwt.parts token
        ∧ Text.Base64Url.toBytes? third = some signature
        ∧ (∃ message, pub.verify .sha256 message signature = true)
        ∧ ∀ message, pub.verify .sha384 message signature = false
          ∧ pub.verify .sha512 message signature = false := by
  have hout : ((jwtSigner 0 ⟨0⟩).createPrimitive (Rsa.CryptoModule.exact none)
      (.jwt (.ofKeyPair 1 Rsa.mersenneKey)) {}).1 = _ :=
    createPrimitive_eq_signer_iff.2 Jwt.PrivateKey.signer_ofKeyPair_mersenneKey
  obtain ⟨pub, a, hpub, ha, -, htokens⟩ := verify_eq_false_of_other_hash
    (Rsa.CryptoModule.tellsPrimes_exact none) (Prod.ext hout rfl)
  obtain rfl : a = .rs256 := Except.ok.inj (ha.symm.trans (Jwt.Algorithm.ofNumber_number .rs256))
  obtain ⟨token, payload, htoken, -⟩ := Jwt.Signer.exists_token
    (Jwt.PrivateKey.signs_of_signer (Rsa.CryptoModule.tellsPrimes_exact none)
      Jwt.PrivateKey.signer_ofKeyPair_mersenneKey)
    (fun hboth : none.isSome ∧ (none : Option String).isSome => nomatch hboth.2)
    Jwt.RawJwt.serializable_default
  obtain ⟨header, payload, third, signature, members, hparts, hthird, -, halg, honly⟩ :=
    htokens {} none token htoken
  have hnot : ∀ (b : Jwt.Algorithm) (message : Bytes), b ≠ .rs256 →
      pub.verify b.hash message signature = false := by
    intro b message hb
    by_contra hother
    rw [Bool.not_eq_false] at hother
    have hmem := (halg (.text b.name)).1 ((honly b).1 ⟨message, hother⟩)
    exact hb (Jwt.Algorithm.name_injective (Json.Tree.text.inj hmem))
  refine ⟨_, pub, token, third, signature, hout, hpub, htoken, ?_, hthird, ?_, fun message => ?_⟩
  · rw [hparts]
    simp
  · exact (honly .rs256).2 ((halg _).2 rfl)
  · exact ⟨hnot .rs384 message (by decide), hnot .rs512 message (by decide)⟩

end Manager

end Keyring
