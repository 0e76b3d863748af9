/-
# Public keys of JWT signers

The record of a public key: version, algorithm, modulus and exponent, and perhaps a custom key id.
The custom key id is a record of its own, so that an empty one differs from none.

`encode` writes a record: its fields by number, those with a default value left out, then the bytes
of fields unknown to the schema.  `merge?` reads fields into a record: a later field replaces an
earlier one, a record within the record is merged, and a field with an unknown number or with
another kind of content is kept as it came.
-/
import Keyring.Wire.Field
import Keyring.Wire.Scalar

namespace Keyring.Jwt

/-- The custom key id of a public key. -/
structure CustomKid where
  value : String := ""
  /-- The fields that the schema does not know, as they came. -/
  unknown : Bytes := []
deriving DecidableEq

namespace CustomKid

/-- The record as bytes. -/
def encode (kid : CustomKid) : Bytes :=
  Wire.writeBytes 1 (Bytes.ofText kid.value) ++ kid.unknown

/-- Takes in one field; the value must be UTF-8. -/
def addField? (kid : CustomKid) (f : Wire.Field) : Option CustomKid :=
  match f.number, f.content with
  | 1, .bytes b => (Bytes.text? b).map fun value => { kid with value }
  | _, _ => some { kid with unknown := kid.unknown ++ f.raw }

/-- Takes in the fields that the bytes spell. -/
def merge? (room : Nat) (kid : CustomKid) (bs : Bytes) : Option CustomKid := do
  (← Wire.readFields room bs).foldlM addField? kid

end CustomKid

/-- The record of a public key. -/
structure PublicKey where
  version : UInt32 := 0
  /-- The number of the algorithm; other numbers than those of known algorithms are kept. -/
  algorithm : Int32 := 0
  /-- The modulus, most significant byte first. -/
  n : Bytes := []
  /-- The public exponent, most significant byte first. -/
  e : Bytes := []
  customKid : Option CustomKid := none
  /-- The fields that the schema does not know, as they came. -/
  unknown : Bytes := []
deriving DecidableEq

namespace PublicKey

/-- The name of the record. -/
def schemaName : String := "JwtRsaSsaPkcs1PublicKey"

/-- The record as bytes. -/
def encode (key : PublicKey) : Bytes :=
  Wire.writeNumber 1 key.version.toNat
    ++ Wire.writeNumber 2 (Wire.ofSigned key.algorithm)
    ++ Wire.writeBytes 3 key.n
    ++ Wire.writeBytes 4 key.e
    ++ (key.customKid.elim [] fun kid => Wire.writeMessage 5 kid.encode)
    ++ key.unknown

/-- Takes in one field; records within may nest `room` deep. -/
def addField? (room : Nat) (key : PublicKey) (f : Wire.Field) : Option PublicKey :=
  match f.number, f.content with
  | 1, .number v => some { key with version := Wire.toUnsigned v }
  | 2, .number v => some { key with algorithm := Wire.toSigned v }
  | 3, .bytes b => some { key with n := b }
  | 4, .bytes b => some { key with e := b }
  | 5, .bytes b =>
    ((key.customKid.getD {}).merge? (room - 1) b).map fun kid => { key with customKid := some kid }
  | _, _ => some { key with unknown := key.unknown ++ f.raw }

/-- Takes in the fields that the bytes spell. -/
def merge? (room : Nat) (key : PublicKey) (bs : Bytes) : Option PublicKey := do
  (← Wire.readFields room bs).foldlM (addField? room) key

/-- The record that the bytes spell. -/
def decode? (bs : Bytes) : Option PublicKey :=
  merge? Wire.maxDepth {} bs

/-- The record that the bytes spell, or the error for the key type. -/
def parse (bs : Bytes) (typeUrl? : Option String := none) : Except KeyError PublicKey :=
  (decode? bs).elim (refuse (.malformed schemaName) typeUrl?) pure

end PublicKey

end Keyring.Jwt
