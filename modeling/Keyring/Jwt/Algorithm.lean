/-
# Signing algorithms of tokens

The three algorithms of RSA signatures with a fixed padding, their names in token headers and their
numbers in key records, and the key types that they belong to.
-/
import Keyring.Error
import Keyring.Hash.Algorithm

namespace Keyring.Jwt

/-- The key type of private keys. -/
def privateKeyType : String :=
  "type.googleapis.com/google.crypto.tink.JwtRsaSsaPkcs1PrivateKey"

/-- The key type of public keys. -/
def publicKeyType : String :=
  "type.googleapis.com/google.crypto.tink.JwtRsaSsaPkcs1PublicKey"

/-- An algorithm that signs tokens. -/
inductive Algorithm where
  | rs256
  | rs384
  | rs512
deriving DecidableEq

namespace Algorithm

/-- The algorithms. -/
def all : List Algorithm := [rs256, rs384, rs512]

/-- The name in token headers. -/
def name : Algorithm → String
  | rs256 => "RS256"
  | rs384 => "RS384"
  | rs512 => "RS512"

/-- The number in key records. -/
def number : Algorithm → Int
  | rs256 => 1
  | rs384 => 2
  | rs512 => 3

/-- The hash that is signed. -/
def hash : Algorithm → Hash.Algorithm
  | rs256 => .sha256
  | rs384 => .sha384
  | rs512 => .sha512

/-- The algorithm with a name. -/
def ofName? (s : String) : Option Algorithm :=
  all.find? fun a => a.name = s

/-- The algorithm with a number. -/
def ofNumber? (n : Int) : Option Algorithm :=
  all.find? fun a => a.number = n

/-- The algorithm with a number, or the error for a number that stands for none. -/
def ofNumber (n : Int) : Except KeyError Algorithm :=
  (ofNumber? n).elim (refuse (.unknownAlgorithm n) privateKeyType) pure

end Algorithm

end Keyring.Jwt
