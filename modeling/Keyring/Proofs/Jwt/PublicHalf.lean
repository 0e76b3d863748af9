/-
# Tokens under the exported public half

Whoever holds the public half that is exported from a serialized key can check the tokens of the
signer that is made from the same bytes.

* `Manager.token_verifies_under_publicKeyData` is that statement; signing reads the bytes once, and
  the exported half is written and read again on its way to the receiver.
-/
import Keyring.Proofs.Jwt.RoundTrip
import Keyring.Proofs.Jwt.SelfTest
import Keyring.Proofs.Jwt.Signing
import Keyring.Proofs.Jwt.Token

namespace Keyring.Manager

variable {crypto : Rsa.CryptoModule} {serial : Nat} {policy : PolicyId} {b : Bytes} {s t : State}

/-- If bytes give a signer, they also give a public half, under every state with the same policy.
Read by a receiver, the public half has the algorithm that the header of every token names, and
under its modulus and exponent the third part of the token verifies for the first two. -/
theorem token_verifies_under_publicKeyData (hcrypto : crypto.TellsPrimes)
    (hb : b.length < Jwt.maxBytes) {signer : Jwt.Signer}
    (h : (jwtSigner serial policy).primitive crypto b s = (.ok (.signer signer), t)) :
    ∃ (data : KeyData) (pub : Jwt.PublicKey) (key : Rsa.PublicKey) (a : Jwt.Algorithm),
      (∀ u : State, u.policy policy = s.policy policy →
          (jwtSigner serial policy).publicKeyData b u = (.ok data, u))
        ∧ Jwt.PublicKey.parse data.value = .ok pub
        ∧ Jwt.Algorithm.ofNumber pub.algorithm.toInt = .ok a
        ∧ Rsa.PublicKey.accept ⟨pub.n.toNat, pub.e.toNat⟩ = .ok key
        ∧ ∀ (jwt : Jwt.RawJwt) (kid : Option String) (token : String),
            signer.token jwt kid = .ok token →
          ∃ header payload signature bytes members,
            Jwt.parts token = [header, payload, signature] ∧ Jwt.IsAscii token
              ∧ Text.Base64Url.toBytes? signature = some bytes
              ∧ key.verify a.hash (Bytes.ofText (header ++ "." ++ payload)) bytes = true
              ∧ Jwt.readHeader? header = some (.object members)
              ∧ ∀ value, ("alg", value) ∈ members ↔ value = .text a.name := by
  obtain ⟨key, hkey, hcheck, hcreate⟩ := primitive_eq_ok h
  have hs : key.signer crypto = .ok signer :=
    createPrimitive_eq_signer_iff.1 (congrArg Prod.fst hcreate)
  obtain ⟨ha, hk, -, -, -⟩ := (Jwt.PrivateKey.signer_eq_ok_iff hcrypto).1 hs
  refine ⟨{ typeUrl := Jwt.publicKeyType, value := key.pub.encode, material := .asymmetricPublic },
    key.pub, key.pub.rsa, signer.algorithm, ?_, ?_, ?_, hk.accept_pub, ?_⟩
  · intro u hu
    exact publicKeyData_of_check hkey (by rw [hu, hcheck])
  · exact Jwt.PublicKey.parse_eq_ok_iff.2 (Jwt.PrivateKey.decode?_encode_pub hb hkey)
  · rw [← ha, Jwt.Algorithm.ofNumber_number]
  -- a token is signed over its first two parts, and the signer signs them in one way only
  intro jwt kid token htoken
  obtain ⟨headerKid, unsigned, own, -, hunsigned, hsign, rfl⟩ := Jwt.Signer.token_eq_ok htoken
  obtain ⟨own', hsign', hverify⟩ := Jwt.PrivateKey.exists_sign_of_signer hcrypto hs
    (Bytes.ofText unsigned)
  obtain rfl : own' = own := Except.ok.inj (hsign'.symm.trans hsign)
  rw [Jwt.unsignedCompact_eq] at hunsigned
  cases hpayload : jwt.payload with
  | error e =>
    rw [hpayload] at hunsigned
    cases hunsigned
  | ok payload =>
    rw [hpayload] at hunsigned
    obtain rfl := Except.ok.inj hunsigned
    obtain ⟨sorted, hperm, hheader⟩ :=
      Jwt.readHeader?_headerText signer.algorithm.name jwt.typeHeader headerKid
    refine ⟨_, _, _, own', _, Jwt.parts_signedCompact _ _ own', Jwt.isAscii_signedCompact _ _ own',
      Text.Base64Url.toBytes?_ofBytes own', (hverify own').2 rfl, hheader, ?_⟩
    exact Jwt.alg_mem_iff hperm

/-! ## A large key -/

/-- No part of the large key pair takes more than 300 bytes. -/
lemma load_ofKeyPair_mersenneKey (algorithm : Int32) :
    (Jwt.PrivateKey.ofKeyPair algorithm Rsa.mersenneKey).load ≤ 2400 := by
  have hpart : ∀ v < 256 ^ (299 + 1), (Bytes.ofNat v).length ≤ 299 + 1 :=
    fun v hv => Bytes.length_ofNat_le hv
  have hn := hpart Rsa.mersenneKey.pub.n (by decide +kernel)
  have he := hpart Rsa.mersenneKey.pub.e (by decide +kernel)
  have hd := hpart Rsa.mersenneKey.priv.d (by decide +kernel)
  have hp := hpart Rsa.mersenneKey.priv.p (by decide +kernel)
  have hq := hpart Rsa.mersenneKey.priv.q (by decide +kernel)
  have hdp := hpart Rsa.mersenneKey.priv.dp (by decide +kernel)
  have hdq := hpart Rsa.mersenneKey.priv.dq (by decide +kernel)
  have hcrt := hpart Rsa.mersenneKey.priv.crt (by decide +kernel)
  simp only [Jwt.PrivateKey.load, Jwt.PrivateKey.ofKeyPair, Jwt.PublicKey.load, Option.elim_some,
    Option.elim_none, List.length_nil]
  omega

lemma check_ofKeyPair_mersenneKey (algorithm : Int32) :
    (Jwt.PrivateKey.ofKeyPair algorithm Rsa.mersenneKey).check {} = .ok () := by
  have hn : (Jwt.PrivateKey.ofKeyPair algorithm Rsa.mersenneKey).pub.n.toNat
      = Rsa.mersenneKey.pub.n := Bytes.toNat_ofNat _
  have he : (Jwt.PrivateKey.ofKeyPair algorithm Rsa.mersenneKey).pub.e.toNat = 65537 :=
    Bytes.toNat_ofNat _
  have hbits : bitLength Rsa.mersenneKey.pub.n = 2330 := by decide +kernel
  rw [Jwt.PrivateKey.check, hn, he, hbits]
  rfl

/-- The record of the large key pair is read back from its bytes. -/
lemma decode?_ofKeyPair_mersenneKey (algorithm : Int32) :
    Jwt.PrivateKey.decode? (Jwt.PrivateKey.ofKeyPair algorithm Rsa.mersenneKey).encode
      = some (Jwt.PrivateKey.ofKeyPair algorithm Rsa.mersenneKey) := by
  refine (Jwt.PrivateKey.readable_ofKeyPair algorithm Rsa.mersenneKey).decode?_encode ?_
  exact Nat.lt_of_le_of_lt (load_ofKeyPair_mersenneKey algorithm) (by decide)

/-- The bytes of a large key give a signer and a public half, and the signer makes a token, which
verifies under the public half. -/
theorem token_verifies_mersenneKey :
    ∃ (b : Bytes) (signer : Jwt.Signer) (data : KeyData) (pub : Jwt.PublicKey)
        (key : Rsa.PublicKey) (a : Jwt.Algorithm) (token header payload signature : String)
        (bytes : Bytes),
      b.length < Jwt.maxBytes
        ∧ ((jwtSigner 0 ⟨0⟩).primitive (Rsa.CryptoModule.exact none) b {}).1 = .ok (.signer signer)
        ∧ (jwtSigner 0 ⟨0⟩).publicKeyData b {} = (.ok data, {})
        ∧ Jwt.PublicKey.parse data.value = .ok pub
        ∧ Jwt.Algorithm.ofNumber pub.algorithm.toInt = .ok a
        ∧ Rsa.PublicKey.accept ⟨pub.n.toNat, pub.e.toNat⟩ = .ok key
        ∧ signer.token {} = .ok token ∧ Jwt.parts token = [header, payload, signature]
        ∧ Text.Base64Url.toBytes? signature = some bytes
        ∧ key.verify a.hash (Bytes.ofText (header ++ "." ++ payload)) bytes = true := by
  have hb : (Jwt.PrivateKey.ofKeyPair 1 Rsa.mersenneKey).encode.length < Jwt.maxBytes := by
    have hload := load_ofKeyPair_mersenneKey 1
    have hsmall := Jwt.PrivateKey.length_encode_le
      (Nat.lt_of_le_of_lt hload (by decide : 2400 < Jwt.maxBytes))
    rw [Jwt.maxBytes]
    omega
  have hsigner := Jwt.PrivateKey.signer_ofKeyPair_mersenneKey
  have hcall : ∃ t, (jwtSigner 0 ⟨0⟩).primitive (Rsa.CryptoModule.exact none)
      (Jwt.PrivateKey.ofKeyPair 1 Rsa.mersenneKey).encode {}
        = (.ok (.signer
          { algorithm := .rs256, customKid := none, key := Rsa.mersenneKey }), t) := by
    have hout : ((jwtSigner 0 ⟨0⟩).createPrimitive (Rsa.CryptoModule.exact none)
        (.jwt (.ofKeyPair 1 Rsa.mersenneKey)) {}).1 = _ :=
      createPrimitive_eq_signer_iff.2 hsigner
    have hcheck : (Jwt.PrivateKey.ofKeyPair 1 Rsa.mersenneKey).check (({} : State).policy ⟨0⟩)
        = .ok () := check_ofKeyPair_mersenneKey 1
    rw [← primitive_of_check (decode?_ofKeyPair_mersenneKey 1) hcheck] at hout
    exact ⟨_, Prod.ext hout rfl⟩
  obtain ⟨t, hcall⟩ := hcall
  -- empty claims can be written, and no key id is in the way
  obtain ⟨token, -, htoken, -, -⟩ := Jwt.Signer.exists_token
    (Jwt.PrivateKey.signs_of_signer (Rsa.CryptoModule.tellsPrimes_exact none) hsigner)
    (fun h => Bool.false_ne_true h.1) Jwt.RawJwt.serializable_default
  obtain ⟨data, pub, key, a, hdata, hpub, ha, hkey, htokens⟩ :=
    token_verifies_under_publicKeyData (Rsa.CryptoModule.tellsPrimes_exact none) hb hcall
  obtain ⟨header, payload, signature, bytes, -, hparts, -, hbytes, hverify, -⟩ :=
    htokens {} none token htoken
  exact ⟨_, _, data, pub, key, a, token, header, payload, signature, bytes, hb,
    congrArg Prod.fst hcall, hdata {} rfl, hpub, ha, hkey, htoken, hparts, hbytes, hverify⟩

end Keyring.Manager
