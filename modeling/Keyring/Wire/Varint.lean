/-
# Variable-length integers

A natural number is written in groups of seven bits, least significant group first, one group to a
byte; every byte but the last has its top bit set.  Writing gives the shortest form, reading accepts
any form up to a given number of bytes.
-/
import Keyring.Bytes

namespace Keyring.Wire

/-- The shortest form of a number. -/
def writeVarint (v : Nat) : Bytes :=
  if v < 128 then [UInt8.ofNat v] else UInt8.ofNat (v % 128 + 128) :: writeVarint (v / 128)
termination_by v
decreasing_by omega

/-- The number at the front, of at most `most` bytes, and the bytes behind it. -/
def readVarint : (most : Nat) → Bytes → Option (Nat × Bytes)
  | 0, _ => none
  | _ + 1, [] => none
  | most + 1, b :: rest =>
    if b.toNat < 128 then some (b.toNat, rest)
    else (readVarint most rest).map fun (v, rest) => (b.toNat - 128 + 128 * v, rest)

theorem length_of_readVarint {most : Nat} {bs rest : Bytes} {v : Nat}
    (h : readVarint most bs = some (v, rest)) : rest.length < bs.length := by
  induction most generalizing bs v with
  | zero => simp [readVarint] at h
  | succ most ih =>
    cases bs with
    | nil => simp [readVarint] at h
    | cons b bs =>
      simp only [readVarint] at h
      split at h
      · simp only [Option.some.injEq, Prod.mk.injEq] at h
        simp [← h.2]
      · obtain ⟨⟨w, r⟩, hw, he⟩ := Option.map_eq_some_iff.1 h
        simp only [Prod.mk.injEq] at he
        obtain ⟨_, rfl⟩ := he
        have := ih hw
        simp only [List.length_cons]
        omega

/-- The most bytes that a value takes; of the last only the bits of a 64-bit number count. -/
def valueBytes : Nat := 10

/-- The 64-bit number at the front and the bytes behind it. -/
def readValue (bs : Bytes) : Option (Nat × Bytes) :=
  (readVarint valueBytes bs).map fun (v, rest) => (v % 0x10000000000000000, rest)

theorem length_of_readValue {bs rest : Bytes} {v : Nat} (h : readValue bs = some (v, rest)) :
    rest.length < bs.length := by
  obtain ⟨⟨w, r⟩, hw, he⟩ := Option.map_eq_some_iff.1 h
  simp only [Prod.mk.injEq] at he
  have := length_of_readVarint hw
  rwa [he.2] at this

end Keyring.Wire
