/-
# Private keys of JWT signers

The record of a private key holds the record of its public half and the six private parts.  It is
written and read as the record of the public key is.
-/
import Keyring.Jwt.PublicKey

namespace Keyring.Jwt

/-- The record of a private key; integers are spelled most significant byte first. -/
structure PrivateKey where
  version : UInt32 := 0
  publicKey : Option PublicKey := none
  /-- The private exponent. -/
  d : Bytes := []
  /-- The first prime. -/
  p : Bytes := []
  /-- The second prime. -/
  q : Bytes := []
  /-- The private exponent modulo `p - 1`. -/
  dp : Bytes := []
  /-- The private exponent modulo `q - 1`. -/
  dq : Bytes := []
  /-- The inverse of `q` modulo `p`. -/
  crt : Bytes := []
  /-- The fields that the schema does not know, as they came. -/
  unknown : Bytes := []
deriving DecidableEq

namespace PrivateKey

/-- The name of the record. -/
def schemaName : String := "JwtRsaSsaPkcs1PrivateKey"

/-- The public half; a record without one counts as having an empty one. -/
def pub (key : PrivateKey) : PublicKey :=
  key.publicKey.getD {}

/-- The record as bytes. -/
def encode (key : PrivateKey) : Bytes :=
  Wire.writeNumber 1 key.version.toNat
    ++ (key.publicKey.elim [] fun pub => Wire.writeMessage 2 pub.encode)
    ++ Wire.writeBytes 3 key.d
    ++ Wire.writeBytes 4 key.p
    ++ Wire.writeBytes 5 key.q
    ++ Wire.writeBytes 6 key.dp
    ++ Wire.writeBytes 7 key.dq
    ++ Wire.writeBytes 8 key.crt
    ++ key.unknown

/-- Takes in one field; records within may nest `room` deep. -/
def addField? (room : Nat) (key : PrivateKey) (f : Wire.Field) : Option PrivateKey :=
  match f.number, f.content with
  | 1, .number v => some { key with version := Wire.toUnsigned v }
  | 2, .bytes b => (key.pub.merge? (room - 1) b).map fun pub => { key with publicKey := some pub }
  | 3, .bytes b => some { key with d := b }
  | 4, .bytes b => some { key with p := b }
  | 5, .bytes b => some { key with q := b }
  | 6, .bytes b => some { key with dp := b }
  | 7, .bytes b => some { key with dq := b }
  | 8, .bytes b => some { key with crt := b }
  | _, _ => some { key with unknown := key.unknown ++ f.raw }

/-- The record that the bytes spell. -/
def decode? (bs : Bytes) : Option PrivateKey := do
  (← Wire.readFields Wire.maxDepth bs).foldlM (addField? Wire.maxDepth) {}

/-- The record that the bytes spell, or the error for the key type. -/
def parse (bs : Bytes) (typeUrl? : Option String := none) : Except KeyError PrivateKey :=
  (decode? bs).elim (refuse (.malformed schemaName) typeUrl?) pure

end PrivateKey

end Keyring.Jwt
