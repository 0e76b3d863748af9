/-
# How the operations on keys run

The manager of JWT signing keys reads a key, checks it under the policy that it sees and makes a
signer from it; what it logs and counts on the way decides nothing.

* `Manager.parseKey_eq_ok_iff`, `Manager.checkKey_eq_ok_iff` and `Manager.createPrimitive_apply` are
  the three steps.
* `Manager.createPrimitive_eq_signer_iff`: the signer that is returned is the one of the record.
* `Manager.primitive_eq_ok` and `Manager.publicKeyData_eq_ok` take calls that succeeded apart, and
  `Manager.primitive_of_check` and `Manager.publicKeyData_of_check` put calls together.
* `Manager.publicKeyData_of_malformed` and `Manager.publicKeyData_of_error` are the two ways in
  which exporting a public half fails.
-/
import Keyring.Manager.Operations
import Keyring.Proofs.Action
import Keyring.Proofs.Jwt.Records

namespace Keyring

namespace Jwt

/-! ## Log and counters -/

/-- Making a signer counts and logs, and changes nothing else. -/
lemma PrivateKey.makeSignerPlain_apply (key : PrivateKey) (crypto : Rsa.CryptoModule) (s : State) :
    (key.makeSignerPlain crypto s).1 = (key.signer crypto).mapError .key
      ∧ (key.makeSignerPlain crypto s).2.objects = s.objects := by
  rw [makeSignerPlain]
  cases key.signer crypto with
  | error e =>
    by_cases he : e.kind = .selfTestFailure
    · simp only [he, if_true]
      exact ⟨rfl, rfl⟩
    · simp only [he, if_false]
      exact ⟨rfl, rfl⟩
  | ok signer => exact ⟨rfl, rfl⟩

lemma PrivateKey.makeSigner_apply (key : PrivateKey) (crypto : Rsa.CryptoModule) (s : State) :
    (key.makeSigner crypto s).1 = (key.signer crypto).mapError .key
      ∧ (key.makeSigner crypto s).2.objects = s.objects := by
  obtain ⟨hout, hobj⟩ := Action.withBound_apply [("type_url", .text privateKeyType)]
    (key.makeSignerPlain crypto) s
  rw [makeSigner, hout, hobj]
  exact key.makeSignerPlain_apply crypto _

end Jwt

namespace Manager

variable {crypto : Rsa.CryptoModule} {key : Jwt.PrivateKey} {serial : Nat} {policy : PolicyId}
  {b : Bytes} {s t : State}

/-! ## What changes nothing -/

section Reads

open Keyring.Action (Reads)

variable (m : Manager)

lemma reads_parseKey (b : Bytes) : Reads (m.parseKey b) := by
  cases m with
  | jwtSigner _ _ => exact (Reads.ofKey _).bind fun _ => .pure _
  | external _ _ => exact (Reads.ofKey _).bind fun _ => .pure _

lemma reads_checkKey (key : Key) : Reads (m.checkKey key) := by
  cases m <;> cases key
  · exact Reads.get.bind fun _ => .ofKey _
  · exact .throw _
  · exact .pure _
  · exact .ofKey _

lemma reads_parseFormat (b : Bytes) : Reads (m.parseFormat b) := by
  cases m with
  | jwtSigner _ _ => exact .ofKey _
  | external _ _ => exact .throw _

lemma reads_checkFormat (format : Jwt.KeyFormat) : Reads (m.checkFormat format) := by
  cases m with
  | jwtSigner _ _ => exact Reads.get.bind fun _ => .ofKey _
  | external _ _ => exact .throw _

lemma reads_publicKey (key : Key) : Reads (m.publicKey key) := by
  cases m <;> cases key
  · exact .pure _
  all_goals exact .throw _

/-- Exporting a public half changes nothing. -/
lemma reads_publicKeyData (b : Bytes) : Reads (m.publicKeyData b) := by
  unfold publicKeyData
  split
  · exact .throw _
  · exact (m.reads_parseKey b).bind fun key => (m.reads_checkKey key).bind fun _ =>
      (m.reads_publicKey key).bind fun _ => .pure _

end Reads

/-! ## Steps -/

/-- A key that is read is the record that the bytes are decoded to. -/
lemma parseKey_eq_ok_iff {k : Key} :
    (jwtSigner serial policy).parseKey b s = (.ok k, t)
      ↔ ∃ key, Jwt.PrivateKey.decode? b = some key ∧ k = .jwt key ∧ t = s := by
  rw [parseKey, Action.bind_eq_ok]
  constructor
  · rintro ⟨key, u, hkey, h⟩
    obtain ⟨hparse, rfl⟩ := Action.ofKey_eq_ok_iff.1 hkey
    cases h
    exact ⟨key, Jwt.PrivateKey.parse_eq_ok_iff.1 hparse, rfl, rfl⟩
  · rintro ⟨key, hdecode, rfl, rfl⟩
    exact ⟨key, t, Action.ofKey_eq_ok_iff.2 ⟨Jwt.PrivateKey.parse_eq_ok_iff.2 hdecode, rfl⟩, rfl⟩

/-- A key passes if its record passes under the policy that the manager sees. -/
lemma checkKey_eq_ok_iff :
    (jwtSigner serial policy).checkKey (.jwt key) s = (.ok (), t)
      ↔ key.check (s.policy policy) = .ok () ∧ t = s := by
  rw [checkKey, Action.bind_of_ok (Action.get_apply s), Action.ofKey_eq_ok_iff]

lemma createPrimitive_apply (serial : Nat) (policy : PolicyId) (crypto : Rsa.CryptoModule)
    (key : Jwt.PrivateKey) (s : State) :
    ((jwtSigner serial policy).createPrimitive crypto (.jwt key) s).1
        = ((key.signer crypto).map .signer).mapError .key
      ∧ ((jwtSigner serial policy).createPrimitive crypto (.jwt key) s).2.objects = s.objects := by
  obtain ⟨hout, hobj⟩ := key.makeSigner_apply crypto s
  cases hs : key.signer crypto with
  | error e =>
    rw [hs] at hout
    have hm : key.makeSigner crypto s = (.error (.key e), (key.makeSigner crypto s).2) :=
      Prod.ext hout rfl
    rw [createPrimitive, Action.bind_of_error hm]
    exact ⟨rfl, hobj⟩
  | ok signer =>
    rw [hs] at hout
    have hm : key.makeSigner crypto s = (.ok signer, (key.makeSigner crypto s).2) :=
      Prod.ext hout rfl
    rw [createPrimitive, Action.bind_of_ok hm]
    exact ⟨rfl, hobj⟩

/-- The signer that is returned is the one of the record. -/
lemma createPrimitive_eq_signer_iff {signer : Jwt.Signer} :
    ((jwtSigner serial policy).createPrimitive crypto (.jwt key) s).1 = .ok (.signer signer)
      ↔ key.signer crypto = .ok signer := by
  rw [(createPrimitive_apply serial policy crypto key s).1]
  constructor
  · intro h
    cases hs : key.signer crypto with
    | error e =>
      rw [hs] at h
      cases h
    | ok made =>
      rw [hs] at h
      obtain rfl : made = signer := Primitive.signer.inj (Except.ok.inj h)
      rfl
  · intro h
    rw [h]
    rfl

/-! ## Calls -/

/-- A primitive comes from a key that was read and checked. -/
lemma primitive_eq_ok {p : Primitive}
    (h : (jwtSigner serial policy).primitive crypto b s = (.ok p, t)) :
    ∃ key, Jwt.PrivateKey.decode? b = some key ∧ key.check (s.policy policy) = .ok ()
      ∧ (jwtSigner serial policy).createPrimitive crypto (.jwt key) s = (.ok p, t) := by
  obtain ⟨k, u, hparse, hrest⟩ := Action.bind_eq_ok.1 h
  obtain ⟨key, hdecode, rfl, rfl⟩ := parseKey_eq_ok_iff.1 hparse
  obtain ⟨⟨⟩, u, hpass, hmake⟩ := Action.bind_eq_ok.1 hrest
  obtain ⟨hcheck, rfl⟩ := checkKey_eq_ok_iff.1 hpass
  exact ⟨key, hdecode, hcheck, hmake⟩

/-- A public half comes from a key that was read and checked. -/
lemma publicKeyData_eq_ok {data : KeyData}
    (h : (jwtSigner serial policy).publicKeyData b s = (.ok data, t)) :
    ∃ key, Jwt.PrivateKey.decode? b = some key ∧ key.check (s.policy policy) = .ok () := by
  obtain ⟨k, u, hparse, hrest⟩ := Action.bind_eq_ok.1 h
  obtain ⟨key, hdecode, rfl, rfl⟩ := parseKey_eq_ok_iff.1 hparse
  obtain ⟨⟨⟩, u, hpass, -⟩ := Action.bind_eq_ok.1 hrest
  exact ⟨key, hdecode, (checkKey_eq_ok_iff.1 hpass).1⟩

/-- Bytes that are no key have no public half. -/
lemma publicKeyData_of_malformed (h : Jwt.PrivateKey.decode? b = none) :
    (jwtSigner serial policy).publicKeyData b s
      = (.error (.key ⟨.malformed Jwt.PrivateKey.schemaName, Jwt.privateKeyType⟩), s) := by
  have hparse : (jwtSigner serial policy).parseKey b s
      = (.error (.key ⟨.malformed Jwt.PrivateKey.schemaName, Jwt.privateKeyType⟩), s) := by
    rw [parseKey, Jwt.PrivateKey.parse, h]
    rfl
  change ((jwtSigner serial policy).parseKey b >>= _) s = _
  rw [Action.bind_of_error hparse]

/-- The public half of a key that does not pass is not given. -/
lemma publicKeyData_of_error {e : KeyError} (hkey : Jwt.PrivateKey.decode? b = some key)
    (hcheck : key.check (s.policy policy) = .error e) :
    (jwtSigner serial policy).publicKeyData b s = (.error (.key e), s) := by
  have hpass : (jwtSigner serial policy).checkKey (.jwt key) s = (.error (.key e), s) := by
    rw [checkKey, Action.bind_of_ok (Action.get_apply s), hcheck]
    rfl
  change ((jwtSigner serial policy).parseKey b >>= _) s = _
  rw [Action.bind_of_ok (parseKey_eq_ok_iff.2 ⟨key, hkey, rfl, rfl⟩), Action.bind_of_error hpass]

section Checked

variable (hkey : Jwt.PrivateKey.decode? b = some key)
  (hcheck : key.check (s.policy policy) = .ok ())
include hkey hcheck

lemma primitive_of_check :
    (jwtSigner serial policy).primitive crypto b s
      = (jwtSigner serial policy).createPrimitive crypto (.jwt key) s := by
  rw [primitive, Action.bind_of_ok (parseKey_eq_ok_iff.2 ⟨key, hkey, rfl, rfl⟩),
    Action.bind_of_ok (checkKey_eq_ok_iff.2 ⟨hcheck, rfl⟩)]

lemma publicKeyData_of_check :
    (jwtSigner serial policy).publicKeyData b s
      = (.ok { typeUrl := Jwt.publicKeyType, value := key.pub.encode,
               material := .asymmetricPublic }, s) := by
  change ((jwtSigner serial policy).parseKey b >>= _) s = _
  rw [Action.bind_of_ok (parseKey_eq_ok_iff.2 ⟨key, hkey, rfl, rfl⟩),
    Action.bind_of_ok (checkKey_eq_ok_iff.2 ⟨hcheck, rfl⟩)]
  rfl

end Checked

end Manager

end Keyring
