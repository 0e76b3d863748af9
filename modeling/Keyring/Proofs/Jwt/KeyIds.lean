/-
# Where the key ids of headers come from

A template has a strategy for key ids.  What goes into a header is decided when the key is made, by
the custom key id that is stored with it, and again when a token is signed, by the key id that the
caller gives; the strategy sees to it that never both are there.

* `KidStrategy.Fits` says which custom key ids go with a strategy.
* `KidStrategy.HeaderKid` says which key id headers have.
* `Template.headerKid_kidFor`: the caller who asks the template gives the key id of the strategy.
* `PrivateKey.labelled` is the record with the custom key id; nothing else in it changes.
-/
import Keyring.Jwt.KeyMaterial
import Keyring.Jwt.Template
import Keyring.Proofs.Bytes.Integer
import Keyring.Proofs.Jwt.RoundTrip

namespace Keyring.Jwt

/-! ## Strategies -/

namespace KidStrategy

/-- The custom key ids that go with a strategy: one that is not empty with the custom strategy, and
none with the others. -/
inductive Fits : KidStrategy → Option OfferedKid → Prop
  | ignored : Fits ignored none
  | base64EncodedKeyId : Fits base64EncodedKeyId none
  | custom {kid : OfferedKid} (nonempty : kid ≠ .text "") : Fits custom (some kid)

/-- The key id of the headers for a strategy: none, the four bytes of a number modulo 2 ^ 32 in
URL-safe base64, or the custom key id.  The number is the given one, or else the one that is derived
from the public key. -/
inductive HeaderKid (pub : PublicKey) (customKid : Option String) (id : Option Int) :
    KidStrategy → Option String → Prop
  | ignored : HeaderKid pub customKid id ignored none
  | base64EncodedKeyId {b : Bytes} (width : b.length = 4)
      (value : (b.toNat : Int) = id.getD pub.keyId % 2 ^ 32) :
      HeaderKid pub customKid id base64EncodedKeyId (some (Text.Base64Url.ofBytes b))
  | custom {kid : String} (given : customKid = some kid) :
      HeaderKid pub customKid id custom (some kid)

end KidStrategy

/-- A key id is written as its four bytes, whatever its sign and size. -/
lemma exists_encodeKeyId (id : Int) :
    ∃ b : Bytes, encodeKeyId id = Text.Base64Url.ofBytes b ∧ b.length = 4
      ∧ (b.toNat : Int) = id % 2 ^ 32 := by
  refine ⟨_, rfl, Bytes.ofNatPadded_length _ _, ?_⟩
  rw [Bytes.toNat_ofNatPadded]
  omega

namespace Template

variable {t : Template} {customKid : Option String}
  (h : t.kidStrategy.Fits (customKid.map .text))
include h

/-- With the custom key id in the key, the template gives the caller none. -/
lemma not_both_kids (pub : PublicKey) (id : Option Int) :
    ¬ (customKid.isSome ∧ (t.kidFor pub id).isSome) := by
  rw [kidFor]
  generalize t.kidStrategy = strategy at h ⊢
  cases customKid with
  | none => exact nofun
  | some kid =>
    cases h
    exact nofun

/-- The custom key id, or else the one that the template gives the caller, is the one of the
strategy. -/
lemma headerKid_kidFor (pub : PublicKey) (id : Option Int) :
    t.kidStrategy.HeaderKid pub customKid id (customKid.or (t.kidFor pub id)) := by
  rw [kidFor]
  generalize t.kidStrategy = strategy at h ⊢
  cases customKid with
  | none =>
    cases h with
    | ignored => exact .ignored
    | base64EncodedKeyId =>
      obtain ⟨b, hencode, hwidth, hvalue⟩ := exists_encodeKeyId (id.getD pub.keyId)
      simp only [Option.none_or, hencode]
      exact .base64EncodedKeyId hwidth hvalue
  | some kid =>
    cases h
    exact .custom rfl

end Template

/-! ## Records with a custom key id -/

namespace PrivateKey

variable {key : PrivateKey}

/-- The record with the custom key id, if one is given. -/
def labelled (key : PrivateKey) (customKid : Option String) : PrivateKey :=
  customKid.elim key key.withCustomKid

@[simp] lemma rsa_labelled (key : PrivateKey) (customKid : Option String) :
    (key.labelled customKid).rsa = key.rsa := by
  cases customKid <;> rfl

@[simp] lemma algorithm_labelled (key : PrivateKey) (customKid : Option String) :
    (key.labelled customKid).pub.algorithm = key.pub.algorithm := by
  cases customKid <;> rfl

@[simp] lemma check_labelled (key : PrivateKey) (customKid : Option String) (policy : FipsPolicy) :
    (key.labelled customKid).check policy = key.check policy := by
  cases customKid <;> rfl

/-- Everything that is stored is a text. -/
lemma label_eq_ok_iff {customKid : Option OfferedKid} {made : PrivateKey} :
    key.label customKid = .ok made
      ↔ ∃ given : Option String, customKid = given.map .text ∧ made = key.labelled given := by
  constructor
  · intro h
    rcases customKid with _ | kid | _
    · exact ⟨none, rfl, (Except.ok.inj h).symm⟩
    · exact ⟨some kid, rfl, (Except.ok.inj h).symm⟩
    · cases h
  · rintro ⟨given, rfl, rfl⟩
    cases given <;> rfl

/-- The custom key id is stored as it is given. -/
lemma customKid_labelled (h : key.pub.customKid = none) (customKid : Option String) :
    (key.labelled customKid).pub.customKid.map (·.value) = customKid := by
  cases customKid with
  | none =>
    rw [labelled, Option.elim_none, h]
    rfl
  | some kid => rfl

/-- The record of a key pair is read back together with its custom key id, unless it is absurdly
long. -/
lemma decode?_encode_labelled {algorithm : Int32} {pair : Rsa.KeyPair} {customKid : Option String}
    (hload : (ofKeyPair algorithm pair).load < 2 ^ 36)
    (hkid : ∀ kid ∈ customKid, (Bytes.ofText kid).length < 2 ^ 62) :
    decode? ((ofKeyPair algorithm pair).labelled customKid).encode
      = some ((ofKeyPair algorithm pair).labelled customKid) := by
  have hpub : ∀ pub ∈ ((ofKeyPair algorithm pair).labelled customKid).publicKey,
      pub.unknown = [] ∧ ∀ kid ∈ pub.customKid, kid.unknown = [] := by
    intro pub h
    cases customKid with
    | none =>
      cases h
      exact ⟨rfl, nofun⟩
    | some kid =>
      cases h
      refine ⟨rfl, fun made hmade => ?_⟩
      cases hmade
      rfl
  have hless : ((ofKeyPair algorithm pair).labelled customKid).load < maxBytes := by
    rw [maxBytes]
    cases customKid with
    | none => exact hload.trans (by decide)
    | some kid =>
      have hkid := hkid kid rfl
      simp only [load, PublicKey.load, labelled, withCustomKid, pub, ofKeyPair, CustomKid.load,
        Option.elim_some, Option.elim_none, Option.getD_some, Option.getD_none, List.length_nil]
        at hload ⊢
      omega
  refine Arises.decode?_encode (.built ⟨?_, fun pub h => ?_, hless⟩)
  · cases customKid <;> rfl
  · refine ⟨(hpub pub h).1, (hpub pub h).2, Nat.lt_of_le_of_lt ?_ hless⟩
    rw [load, h, Option.elim_some]
    omega

end PrivateKey

end Keyring.Jwt
