/-
# Key formats of JWT signers

The record of a key format says what key to make: version, algorithm, size of the modulus and public
exponent.
-/
import Keyring.Wire.Field
import Keyring.Wire.Scalar

namespace Keyring.Jwt

/-- The record of a key format. -/
structure KeyFormat where
  version : UInt32 := 0
  /-- The number of the algorithm. -/
  algorithm : Int32 := 0
  modulusBits : UInt32 := 0
  /-- The public exponent, most significant byte first. -/
  publicExponent : Bytes := []
  /-- The fields that the schema does not know, as they came. -/
  unknown : Bytes := []
deriving DecidableEq

namespace KeyFormat

/-- The name of the record. -/
def schemaName : String := "JwtRsaSsaPkcs1KeyFormat"

/-- The record as bytes. -/
def encode (format : KeyFormat) : Bytes :=
  Wire.writeNumber 1 format.version.toNat
    ++ Wire.writeNumber 2 (Wire.ofSigned format.algorithm)
    ++ Wire.writeNumber 3 format.modulusBits.toNat
    ++ Wire.writeBytes 4 format.publicExponent
    ++ format.unknown

/-- Takes in one field. -/
def addField (format : KeyFormat) (f : Wire.Field) : KeyFormat :=
  match f.number, f.content with
  | 1, .number v => { format with version := Wire.toUnsigned v }
  | 2, .number v => { format with algorithm := Wire.toSigned v }
  | 3, .number v => { format with modulusBits := Wire.toUnsigned v }
  | 4, .bytes b => { format with publicExponent := b }
  | _, _ => { format with unknown := format.unknown ++ f.raw }

/-- The record that the bytes spell. -/
def decode? (bs : Bytes) : Option KeyFormat := do
  some ((← Wire.readFields Wire.maxDepth bs).foldl addField {})

/-- The record that the bytes spell, or the error for the key type. -/
def parse (bs : Bytes) (typeUrl? : Option String := none) : Except KeyError KeyFormat :=
  (decode? bs).elim (refuse (.malformed schemaName) typeUrl?) pure

end KeyFormat

end Keyring.Jwt
