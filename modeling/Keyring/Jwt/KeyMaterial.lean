/-
# From key records to signers

A key record spells integers; this file says which RSA key it means, what a record must keep before
it is used, and how a signer comes from it.

* `PrivateKey.check` and `KeyFormat.check` apply the limits on keys under a policy.
* `PrivateKey.ofKeyPair` is the record of a new key pair.
* `PrivateKey.signer` accepts a record whose parts belong together and whose key pair passes the
  self-test.  The public key of the self-test is the one that the record stores, so a record with
  a public half that does not belong to its private half gives no signer.
-/
import Keyring.Jwt.KeyFormat
import Keyring.Jwt.PrivateKey
import Keyring.Jwt.Signer
import Keyring.Limits

namespace Keyring.Jwt

/-! ## Checks -/

/-- The highest version of key records. -/
def keyVersion : Nat := 0

/-- The record has a known version, and its modulus and exponent keep the limits. -/
def PrivateKey.check (key : PrivateKey) (policy : FipsPolicy) : Except KeyError Unit := do
  Limits.checkVersion key.version.toNat keyVersion privateKeyType
  Limits.checkModulus (bitLength key.pub.n.toNat) policy privateKeyType
  Limits.checkExponent key.pub.e.toNat privateKeyType

/-- The size of the modulus and the exponent keep the limits. -/
def KeyFormat.check (format : KeyFormat) (policy : FipsPolicy) : Except KeyError Unit := do
  Limits.checkModulus format.modulusBits.toNat policy privateKeyType
  Limits.checkExponent format.publicExponent.toNat privateKeyType

/-! ## Records and key pairs -/

/-- The public key that a record means. -/
def PublicKey.rsa (key : PublicKey) : Rsa.PublicKey :=
  ⟨key.n.toNat, key.e.toNat⟩

/-- The key pair that a record means. -/
def PrivateKey.rsa (key : PrivateKey) : Rsa.KeyPair where
  pub := key.pub.rsa
  priv := ⟨key.d.toNat, key.p.toNat, key.q.toNat, key.dp.toNat, key.dq.toNat, key.crt.toNat⟩

/-- The record of a key pair. -/
def PrivateKey.ofKeyPair (algorithm : Int32) (pair : Rsa.KeyPair) : PrivateKey where
  version := UInt32.ofNat keyVersion
  publicKey := some {
    version := UInt32.ofNat keyVersion
    algorithm
    n := Bytes.ofNat pair.pub.n
    e := Bytes.ofNat pair.pub.e }
  d := Bytes.ofNat pair.priv.d
  p := Bytes.ofNat pair.priv.p
  q := Bytes.ofNat pair.priv.q
  dp := Bytes.ofNat pair.priv.dp
  dq := Bytes.ofNat pair.priv.dq
  crt := Bytes.ofNat pair.priv.crt

/-- The record with a custom key id in its public half. -/
def PrivateKey.withCustomKid (key : PrivateKey) (kid : String) : PrivateKey :=
  let customKid := key.pub.customKid.getD {}
  { key with publicKey := some { key.pub with customKid := some { customKid with value := kid } } }

/-- A custom key id as it is offered. -/
inductive OfferedKid where
  | text (kid : String)
  /-- Characters that are no Unicode text, because half of a surrogate pair is among them. -/
  | broken
deriving DecidableEq

/-- Whether there is nothing in it. -/
def OfferedKid.isEmpty : OfferedKid → Bool
  | text kid => kid.isEmpty
  | broken => false

/-- The record with the custom key id that is offered, if there is one and it can be stored. -/
def PrivateKey.label (key : PrivateKey) : Option OfferedKid → Except Failure PrivateKey
  | none => pure key
  | some (.text kid) => pure (key.withCustomKid kid)
  | some .broken => throw .unencodable

/-- A new key for a format. -/
def KeyFormat.newKey (format : KeyFormat) (crypto : Rsa.CryptoModule) :
    Except Failure PrivateKey :=
  (crypto.newKeyPair format.modulusBits.toNat format.publicExponent.toNat).map
    (PrivateKey.ofKeyPair format.algorithm)

/-! ## Signers -/

/-- The key pair and the public key of a record, if the crypto module accepts both. -/
def PrivateKey.accept (key : PrivateKey) (crypto : Rsa.CryptoModule) :
    Except KeyError (Rsa.KeyPair × Rsa.PublicKey) := do
  let pair ← crypto.acceptKeyPair key.rsa
  let pub ← key.pub.rsa.accept
  pure (pair, pub)

/-- The key pair of a record, if it is accepted and passes the self-test. -/
def PrivateKey.testedKeyPair (key : PrivateKey) (crypto : Rsa.CryptoModule)
    (hash : Hash.Algorithm) : Except KeyError Rsa.KeyPair :=
  match key.accept crypto with
  | .error e => refuse (.componentsRejected e.message) privateKeyType
  | .ok (pair, pub) =>
    match Rsa.selfTest pair pub hash with
    | .error e => refuse e.reason privateKeyType
    | .ok () => pure pair

/-- The signer for a record. -/
def PrivateKey.signer (key : PrivateKey) (crypto : Rsa.CryptoModule) : Except KeyError Signer := do
  let algorithm ← Algorithm.ofNumber key.pub.algorithm.toInt
  let pair ← key.testedKeyPair crypto algorithm.hash
  pure { algorithm, customKid := key.pub.customKid.map (·.value), key := pair }

end Keyring.Jwt
