/-
# Numbers on the wire

An unsigned number of 32 bits travels as it is; a signed one travels as the 64-bit number with the
same sign.  Reading keeps the low 32 bits of whatever number arrives.  Integers of key material are
byte strings, and a negative one has no spelling.
-/
import Keyring.Bytes
import Keyring.Error

namespace Keyring.Wire

/-- The low 32 bits of a number. -/
def toUnsigned (v : Nat) : UInt32 :=
  UInt32.ofNat v

/-- The low 32 bits of a number, as a signed number. -/
def toSigned (v : Nat) : Int32 :=
  Int32.ofInt (v : Int)

/-- The 64-bit number with the same sign, read as a natural number. -/
def ofSigned (a : Int32) : Nat :=
  (a.toInt % 0x10000000000000000).toNat

/-- The unsigned number of 32 bits with a value, if there is one. -/
def asUnsigned (v : Int) : Except Failure UInt32 :=
  if 0 ≤ v ∧ v < 0x100000000 then .ok (UInt32.ofNat v.toNat) else .error .range

/-- The signed number of 32 bits with a value, if there is one. -/
def asSigned (v : Int) : Except Failure Int32 :=
  if -0x80000000 ≤ v ∧ v < 0x80000000 then .ok (Int32.ofInt v) else .error .range

/-- The shortest spelling of an integer as key material. -/
def asMaterial (v : Int) : Except Failure Bytes :=
  if v < 0 then .error .negative else .ok (Bytes.ofNat v.toNat)

end Keyring.Wire
