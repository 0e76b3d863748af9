/-
# Which tokens are signed

A signer refuses two key ids and claims that JSON cannot hold; from everything else it makes a token
that a receiver can take apart again.

* `RawJwt.Serializable` holds of claims that JSON can hold.
* `Signer.TokenWith` is what a receiver finds in a token.
* `Signer.token_of_conflict`, `Signer.token_of_not_serializable` and `Signer.exists_token` are the
  three ways in which signing ends.
* `Manager.token_outcome` puts them together for the signers that a manager returns.
-/
import Keyring.Proofs.Json.Writable
import Keyring.Proofs.Jwt.SelfTest
import Keyring.Proofs.Jwt.Token

namespace Keyring

namespace Jwt

/-! ## Claims -/

namespace RawJwt

variable {jwt : RawJwt}

/-- JSON can hold the claims: they stand for the members of a dictionary that it can hold. -/
def Serializable (jwt : RawJwt) : Prop :=
  ∃ ms, jwt.claims.members? = some ms ∧ Json.Writable (.dict ms)

lemma serializable_iff :
    jwt.Serializable
      ↔ (jwt.claims.members?.bind fun ms => Json.canonicalText? (.dict ms)).isSome := by
  rw [Serializable, Option.isSome_bind]
  cases jwt.claims.members? with
  | none => simp
  | some ms => simp [Json.canonicalText?_isSome_iff]

lemma exists_payload (h : jwt.Serializable) : ∃ payload, jwt.payload = .ok payload := by
  obtain ⟨payload, hpayload⟩ := Option.isSome_iff_exists.1 (serializable_iff.1 h)
  refine ⟨payload, ?_⟩
  rw [RawJwt.payload, hpayload]
  rfl

lemma payload_of_not_serializable (h : ¬ jwt.Serializable) :
    jwt.payload = refuse .claimsNotWritable := by
  rw [serializable_iff, Option.not_isSome_iff_eq_none] at h
  rw [RawJwt.payload, h]
  rfl

/-- Empty claims are serializable. -/
lemma serializable_default : RawJwt.Serializable {} :=
  ⟨[], rfl, .dict (.inl nofun) nofun nofun⟩

end RawJwt

/-! ## Signing -/

/-- The signer of a record refuses no message. -/
lemma PrivateKey.signs_of_signer {crypto : Rsa.CryptoModule} (hcrypto : crypto.TellsPrimes)
    {key : PrivateKey} {signer : Signer} (h : key.signer crypto = .ok signer) (message : Bytes) :
    ∃ own, signer.sign message = .ok own := by
  obtain ⟨own, hown, -⟩ := exists_sign_of_signer hcrypto h message
  exact ⟨own, hown⟩

namespace Signer

variable {signer : Signer} {jwt : RawJwt} {kid : Option String}

/-- What a receiver finds in a token of a signer.  Two dots divide characters that are safe in a URL
into three parts: an object with these members and no others, this payload, and what the signer
signs the bytes before the second dot with. -/
structure TokenWith (signer : Signer) (members : List (String × String)) (payload token : String) :
    Prop where
  dots : token.toList.count '.' = 2
  safe : ∀ c ∈ token.toList, c ≠ '.' → c ∈ Text.Base64Url.alphabet
  parts : ∃ first second third, Jwt.parts token = [first, second, third]
    ∧ (∃ sorted : List (String × String), sorted.Perm members
      ∧ readHeader? first = some (.object (sorted.map fun member => (member.1, .text member.2))))
    ∧ (Text.Base64Url.toBytes? second).bind Bytes.text? = some payload
    ∧ ∃ signature, Text.Base64Url.toBytes? third = some signature
      ∧ signer.sign (Bytes.ofText (first ++ "." ++ second)) = .ok signature

/-- A token in three parts is one that a receiver can take apart. -/
lemma tokenWith_signedCompact {algorithm : String} {typeHeader : Option String} {payload : String}
    {signature : Bytes}
    (hsign : signer.sign (Bytes.ofText
      (Text.Base64Url.ofText (headerText (header algorithm typeHeader kid)) ++ "."
        ++ Text.Base64Url.ofText payload)) = .ok signature) :
    signer.TokenWith (headerMembers algorithm typeHeader kid) payload
      (signedCompact (Text.Base64Url.ofText (headerText (header algorithm typeHeader kid)) ++ "."
        ++ Text.Base64Url.ofText payload) signature) := by
  have hlist := toList_signedCompact
    (Bytes.ofText (headerText (header algorithm typeHeader kid))) (Bytes.ofText payload) signature
  refine ⟨?_, fun c hc hdot => ?_, _, _, _, parts_signedCompact _ _ signature,
    readHeader?_headerText algorithm typeHeader kid, ?_, signature,
    Text.Base64Url.toBytes?_ofBytes signature, hsign⟩
  · have hzero : ∀ b : Bytes, (Text.Base64Url.ofBytes b).toList.count '.' = 0 :=
      fun b => List.count_eq_zero.2 fun hmem => ne_dot_of_mem_ofBytes hmem rfl
    rw [Text.Base64Url.ofText, Text.Base64Url.ofText, hlist]
    simp only [List.count_append, List.count_cons_self, hzero]
  · rw [Text.Base64Url.ofText, Text.Base64Url.ofText, hlist, List.mem_append, List.mem_cons,
      List.mem_append, List.mem_cons] at hc
    rcases hc with hc | hc | hc | hc | hc
    · exact Text.Base64Url.mem_alphabet_of_mem_ofBytes hc
    · exact absurd hc hdot
    · exact Text.Base64Url.mem_alphabet_of_mem_ofBytes hc
    · exact absurd hc hdot
    · exact Text.Base64Url.mem_alphabet_of_mem_ofBytes hc
  · rw [Text.Base64Url.toBytes?_ofBytes, Option.bind_some, Bytes.text?_ofText]

/-- Every token of a signer is one that a receiver can take apart. -/
lemma exists_tokenWith {token : String} (h : signer.token jwt kid = .ok token) :
    ∃ headerKid payload, jwt.payload = .ok payload
      ∧ signer.TokenWith (headerMembers signer.algorithm.name jwt.typeHeader headerKid) payload
        token := by
  obtain ⟨headerKid, unsigned, own, -, hunsigned, hsign, rfl⟩ := token_eq_ok h
  rw [unsignedCompact_eq] at hunsigned
  cases hpayload : jwt.payload with
  | error e =>
    rw [hpayload] at hunsigned
    cases hunsigned
  | ok payload =>
    rw [hpayload] at hunsigned
    obtain rfl := Except.ok.inj hunsigned
    exact ⟨headerKid, payload, rfl, tokenWith_signedCompact hsign⟩

lemma headerKid_of_conflict (hcustom : signer.customKid.isSome) (hkid : kid.isSome) :
    signer.headerKid kid = refuse .callerKidBesideCustomKid privateKeyType := by
  obtain ⟨algorithm, custom, key⟩ := signer
  obtain ⟨custom, rfl⟩ := Option.isSome_iff_exists.1 hcustom
  obtain ⟨id, rfl⟩ := Option.isSome_iff_exists.1 hkid
  rfl

/-- The key id of the signer goes before the one of the caller. -/
lemma headerKid_eq_or (h : ¬ (signer.customKid.isSome ∧ kid.isSome)) :
    signer.headerKid kid = .ok (signer.customKid.or kid) := by
  obtain ⟨algorithm, custom, key⟩ := signer
  rcases custom with _ | custom
  · rfl
  rcases kid with _ | id
  · rfl
  · exact absurd ⟨rfl, rfl⟩ h

/-- A caller's key id beside the signer's own is refused, whatever is to be signed. -/
lemma token_of_conflict (hcustom : signer.customKid.isSome) (hkid : kid.isSome) (jwt : RawJwt) :
    signer.token jwt kid = refuse .callerKidBesideCustomKid privateKeyType := by
  rw [token, headerKid_of_conflict hcustom hkid]
  rfl

/-- Claims that JSON cannot hold are refused. -/
lemma token_of_not_serializable (hkid : ¬ (signer.customKid.isSome ∧ kid.isSome))
    (hjwt : ¬ jwt.Serializable) : signer.token jwt kid = refuse .claimsNotWritable := by
  rw [token, headerKid_eq_or hkid]
  change (unsignedCompact _ _ jwt >>= _) = _
  rw [unsignedCompact_eq, RawJwt.payload_of_not_serializable hjwt]
  rfl

/-- Everything else becomes a token. -/
lemma exists_token (hsign : ∀ message, ∃ own, signer.sign message = .ok own)
    (hkid : ¬ (signer.customKid.isSome ∧ kid.isSome)) (hjwt : jwt.Serializable) :
    ∃ token payload, signer.token jwt kid = .ok token ∧ jwt.payload = .ok payload
      ∧ signer.TokenWith
        (headerMembers signer.algorithm.name jwt.typeHeader (signer.customKid.or kid)) payload
        token := by
  obtain ⟨payload, hpayload⟩ := RawJwt.exists_payload hjwt
  obtain ⟨own, hown⟩ := hsign (Bytes.ofText (Text.Base64Url.ofText (headerText
    (header signer.algorithm.name jwt.typeHeader (signer.customKid.or kid))) ++ "."
      ++ Text.Base64Url.ofText payload))
  refine ⟨_, payload, ?_, hpayload, tokenWith_signedCompact hown⟩
  refine bind_eq_ok_iff.2 ⟨_, headerKid_eq_or hkid, bind_eq_ok_iff.2 ⟨_, ?_,
    bind_eq_ok_iff.2 ⟨own, hown, rfl⟩⟩⟩
  rw [unsignedCompact_eq, hpayload]
  rfl

end Signer

end Jwt

namespace Manager

variable {crypto : Rsa.CryptoModule} {key : Jwt.PrivateKey} {serial : Nat} {policy : PolicyId}
  {s t : State}

/-- A signer that is returned for a key has the custom key id of the key.  It fails to make a token
if and only if a caller's key id comes beside a custom one, or else JSON cannot hold the claims; the
two errors differ.  From everything else it makes a token that has, to its receiver, a header with
the declared algorithm, the type that was given and the custom key id or else the caller's, the
payload of the claims, and the signature of both. -/
theorem token_outcome (hcrypto : crypto.TellsPrimes) {signer : Jwt.Signer}
    (h : (jwtSigner serial policy).createPrimitive crypto (.jwt key) s
      = (.ok (.signer signer), t)) :
    ∃ a : Jwt.Algorithm, Jwt.Algorithm.ofNumber key.pub.algorithm.toInt = .ok a
      ∧ signer.customKid = key.pub.customKid.map (·.value)
      ∧ ∀ (jwt : Jwt.RawJwt) (kid : Option String),
        ((∃ e, signer.token jwt kid = .error e)
            ↔ (key.pub.customKid.isSome ∧ kid.isSome) ∨ ¬ jwt.Serializable)
          ∧ (key.pub.customKid.isSome ∧ kid.isSome →
            ∃ e, signer.token jwt kid = .error e ∧ e.kind = .conflictingKeyId)
          ∧ (¬ (key.pub.customKid.isSome ∧ kid.isSome) → ¬ jwt.Serializable →
            ∃ e, signer.token jwt kid = .error e ∧ e.kind = .keyCore)
          ∧ (¬ (key.pub.customKid.isSome ∧ kid.isSome) → jwt.Serializable →
            ∃ token payload, signer.token jwt kid = .ok token ∧ jwt.payload = .ok payload
              ∧ signer.TokenWith (Jwt.headerMembers a.name jwt.typeHeader
                ((key.pub.customKid.map (·.value)).or kid)) payload token) := by
  have hs : key.signer crypto = .ok signer :=
    createPrimitive_eq_signer_iff.1 (congrArg Prod.fst h)
  obtain ⟨ha, -, -, hcustom, -⟩ := (Jwt.PrivateKey.signer_eq_ok_iff hcrypto).1 hs
  have hsign := Jwt.PrivateKey.signs_of_signer hcrypto hs
  refine ⟨signer.algorithm, by rw [← ha, Jwt.Algorithm.ofNumber_number], hcustom, ?_⟩
  intro jwt kid
  have hsome : key.pub.customKid.isSome = signer.customKid.isSome := by
    rw [hcustom, Option.isSome_map]
  rw [hsome, ← hcustom]
  by_cases hboth : signer.customKid.isSome ∧ kid.isSome
  · have hconflict := Jwt.Signer.token_of_conflict hboth.1 hboth.2 jwt
    refine ⟨iff_of_true ⟨_, hconflict⟩ (.inl hboth), fun _ => ⟨_, hconflict, rfl⟩,
      fun hnot => absurd hboth hnot, fun hnot => absurd hboth hnot⟩
  by_cases hjwt : jwt.Serializable
  · obtain ⟨token, payload, htoken, hrest⟩ := Jwt.Signer.exists_token hsign hboth hjwt
    refine ⟨iff_of_false ?_ ?_, fun hyes => absurd hyes hboth, fun _ hnot => absurd hjwt hnot,
      fun _ _ => ⟨token, payload, htoken, hrest⟩⟩
    · rintro ⟨e, he⟩
      rw [htoken] at he
      cases he
    · rintro (hyes | hnot)
      · exact hboth hyes
      · exact hnot hjwt
  · have hrefused := Jwt.Signer.token_of_not_serializable hboth hjwt
    exact ⟨iff_of_true ⟨_, hrefused⟩ (.inr hjwt), fun hyes => absurd hyes hboth,
      fun _ _ => ⟨_, hrefused, rfl⟩, fun _ hyes => absurd hyes hjwt⟩

/-- The signer of the large key refuses claims with bytes in them, and gives tokens for empty
claims, with a caller's key id full of separators. -/
theorem token_outcome_mersenneKey :
    ∃ signer, ((jwtSigner 0 ⟨0⟩).createPrimitive (Rsa.CryptoModule.exact none)
          (.jwt (.ofKeyPair 1 Rsa.mersenneKey)) {}).1 = .ok (.signer signer)
        ∧ (∃ e, signer.token { claims := .dict [(.text "a", .bytes [])] } = .error e
          ∧ e.kind = .keyCore)
        ∧ ∃ token payload, signer.token { typeHeader := some "JWT" } (some "\".\\\n") = .ok token
          ∧ signer.TokenWith [("alg", "RS256"), ("typ", "JWT"), ("kid", "\".\\\n")] payload
            token := by
  have hout : ((jwtSigner 0 ⟨0⟩).createPrimitive (Rsa.CryptoModule.exact none)
      (.jwt (.ofKeyPair 1 Rsa.mersenneKey)) {}).1 = _ :=
    createPrimitive_eq_signer_iff.2 Jwt.PrivateKey.signer_ofKeyPair_mersenneKey
  obtain ⟨a, ha, -, htoken⟩ := token_outcome (Rsa.CryptoModule.tellsPrimes_exact none)
    (Prod.ext hout rfl)
  obtain rfl : a = .rs256 := Except.ok.inj (ha.symm.trans (Jwt.Algorithm.ofNumber_number .rs256))
  have hnone : ¬ ((Jwt.PrivateKey.ofKeyPair 1 Rsa.mersenneKey).pub.customKid.isSome
      ∧ (none : Option String).isSome) := nofun
  have hnone' : ¬ ((Jwt.PrivateKey.ofKeyPair 1 Rsa.mersenneKey).pub.customKid.isSome
      ∧ (some "\".\\\n").isSome) := nofun
  have hbytes : ¬ Jwt.RawJwt.Serializable { claims := .dict [(.text "a", .bytes [])] } := by
    rintro ⟨ms, hms, hwritable⟩
    obtain rfl := Option.some.inj hms
    cases hwritable with | dict _ _ hvalues => ?_
    exact nomatch hvalues (.text "a", .bytes []) (List.mem_singleton_self _)
  have hempty : Jwt.RawJwt.Serializable { typeHeader := some "JWT" } :=
    ⟨[], rfl, .dict (.inl nofun) nofun nofun⟩
  obtain ⟨token, payload, hmade, -, hwith⟩ := (htoken _ _).2.2.2 hnone' hempty
  exact ⟨_, hout, (htoken _ none).2.2.1 hnone hbytes, token, payload, hmade, hwith⟩

end Manager

end Keyring
