/-
# Byte strings

Keys, messages and signatures are lists of bytes.  This file fixes how bytes spell unsigned
integers, text and hexadecimal digits.

* `Bytes.toNat` reads an integer, most significant byte first; `Bytes.ofNat` writes the shortest
  spelling, and `Bytes.ofNatPadded` one of a given width.
* `Bytes.ofText` and `Bytes.text?` pass between text and its UTF-8 spelling; reading refuses
  surrogates, overlong forms and anything above U+10FFFF.
* `Bytes.hex` and `Bytes.ofHex?` pass between bytes and pairs of lower-case digits.
-/
namespace Keyring

/-- A byte string, first byte first. -/
abbrev Bytes := List UInt8

/-- The number of binary digits of `v`; zero has none. -/
def bitLength (v : Nat) : Nat :=
  if v = 0 then 0 else v.log2 + 1

/-- The number of bytes that the binary digits of `v` fill, the first one perhaps in part. -/
def byteLength (v : Nat) : Nat :=
  (bitLength v + 7) / 8

namespace Bytes

/-! ## Unsigned integers -/

/-- The integer that the bytes spell, most significant byte first. -/
def toNat (b : Bytes) : Nat :=
  b.foldl (fun acc x => acc * 256 + x.toNat) 0

/-- The shortest spelling of `v`; zero is one zero byte. -/
def ofNat (v : Nat) : Bytes :=
  if v < 256 then [UInt8.ofNat v] else ofNat (v / 256) ++ [UInt8.ofNat (v % 256)]
termination_by v
decreasing_by omega

/-- The last `width` bytes of the spelling of `v`, with zero bytes in front where `v` is short. -/
def ofNatPadded : Nat → Nat → Bytes
  | 0, _ => []
  | width + 1, v => ofNatPadded width (v / 256) ++ [UInt8.ofNat (v % 256)]

@[simp] theorem ofNatPadded_length (width v : Nat) : (ofNatPadded width v).length = width := by
  induction width generalizing v with
  | zero => rfl
  | succ w ih => simp [ofNatPadded, ih]

theorem ofNat_ne_nil (v : Nat) : ofNat v ≠ [] := by
  rw [ofNat]
  split <;> simp

/-! ## Text -/

/-- The UTF-8 spelling of a text. -/
def ofText (s : String) : Bytes :=
  s.toByteArray.data.toList

/-- The text that the bytes spell in UTF-8, if they do. -/
def text? (b : Bytes) : Option String :=
  String.fromUTF8? ⟨b.toArray⟩

/-! ## Hexadecimal digits -/

/-- The lower-case digit of a value below sixteen. -/
def hexDigit (v : Nat) : Char :=
  if v < 10 then Char.ofNat (48 + v) else Char.ofNat (87 + v)

/-- The value of a hexadecimal digit of either case. -/
def hexValue? (c : Char) : Option Nat :=
  if '0' ≤ c ∧ c ≤ '9' then some (c.toNat - 48)
  else if 'a' ≤ c ∧ c ≤ 'f' then some (c.toNat - 87)
  else if 'A' ≤ c ∧ c ≤ 'F' then some (c.toNat - 55)
  else none

/-- The last `width` digits of the spelling of `v`. -/
def hexPadded : Nat → Nat → List Char
  | 0, _ => []
  | width + 1, v => hexPadded width (v / 16) ++ [hexDigit (v % 16)]

/-- Two digits for each byte. -/
def hex (b : Bytes) : String :=
  String.ofList (b.flatMap fun x => hexPadded 2 x.toNat)

/-- Reads pairs of digits; refuses a digit that stands alone. -/
def ofHexDigits : List Char → Option Bytes
  | [] => some []
  | a :: b :: rest => do
    let x ← hexValue? a
    let y ← hexValue? b
    let bytes ← ofHexDigits rest
    pure (UInt8.ofNat (16 * x + y) :: bytes)
  | [_] => none

/-- The bytes that a text of hexadecimal digits spells. -/
def ofHex? (s : String) : Option Bytes :=
  ofHexDigits s.toList

end Bytes

end Keyring
