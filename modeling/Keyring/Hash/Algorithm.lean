/-
# Hash algorithms

The three hashes with which a token may be signed, their names and sizes, and the bytes that stand
before a hash value inside a signature to tell which of the three it is.
-/
import Keyring.Hash.Sha256
import Keyring.Hash.Sha512

namespace Keyring.Hash

/-- A hash with which a token may be signed. -/
inductive Algorithm where
  | sha256
  | sha384
  | sha512
deriving DecidableEq

namespace Algorithm

/-- The name of the hash. -/
def name : Algorithm → String
  | sha256 => "SHA256"
  | sha384 => "SHA384"
  | sha512 => "SHA512"

/-- The hash with a name. -/
def ofName? (s : String) : Option Algorithm :=
  [sha256, sha384, sha512].find? fun h => h.name = s

/-- The number of bytes of a hash value. -/
def size : Algorithm → Nat
  | sha256 => 32
  | sha384 => 48
  | sha512 => 64

/-- The hash value of a message. -/
def digest : Algorithm → Bytes → Bytes
  | sha256 => Sha256.digest
  | sha384 => Sha512.digest384
  | sha512 => Sha512.digest512

/-- The last byte of the object identifier that names the hash. -/
def identifier : Algorithm → UInt8
  | sha256 => 1
  | sha384 => 2
  | sha512 => 3

/-- The nineteen bytes before a hash value: an outer sequence, the identifier of the hash with
empty parameters, and the head of an octet string. -/
def label (h : Algorithm) : Bytes :=
  [0x30, UInt8.ofNat (17 + h.size), 0x30, 0x0d, 0x06, 0x09, 0x60, 0x86, 0x48, 0x01, 0x65, 0x03,
    0x04, 0x02, h.identifier, 0x05, 0x00, 0x04, UInt8.ofNat h.size]

@[simp] theorem label_length (h : Algorithm) : h.label.length = 19 := rfl

end Algorithm

end Keyring.Hash
