/-
# Key ids

A key id is a number of 32 bits.  It is derived from the modulus and the exponent, each in its
shortest spelling behind its length in four bytes, so that neither leading zeros nor a shift of
bytes from one to the other can change which key is meant.  In a token header it is written as the
URL-safe base64 of its four bytes.
-/
import Keyring.Hash.Sha256
import Keyring.Jwt.PublicKey
import Keyring.Text.Base64Url

namespace Keyring.Jwt

/-- An integer in its shortest spelling, behind its length in four bytes. -/
def lengthAndBytes (v : Nat) : Bytes :=
  Bytes.ofNatPadded 4 (Bytes.ofNat v).length ++ Bytes.ofNat v

/-- The bytes whose hash gives the key id of a public key. -/
def PublicKey.keyIdInput (key : PublicKey) : Bytes :=
  lengthAndBytes key.n.toNat ++ lengthAndBytes key.e.toNat

/-- The key id that is derived from a public key: the first four bytes of the hash. -/
def PublicKey.keyId (key : PublicKey) : Nat :=
  Bytes.toNat ((Hash.Sha256.digest key.keyIdInput).take 4)

/-- A key id as it is written in a token header; only its value modulo 2 ^ 32 counts. -/
def encodeKeyId (id : Int) : String :=
  Text.Base64Url.ofBytes (Bytes.ofNatPadded 4 (id % 0x100000000).toNat)

end Keyring.Jwt
