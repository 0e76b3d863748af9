/-
# Whole numbers written as text

A numeral is a sign or none and decimal digits of any script, where one underscore may stand
between two digits; blanks around it do not count.  A numeral of more than 4300 digits is refused.

Every script that writes numbers in base ten has ten digits in a row, zero first, so a digit is
found from the zeros.

The blanks that do not count are the ASCII ones without the information separators, and the
blanks of Unicode beyond ASCII.
-/
import Keyring.Number.Double
import Keyring.Text.Word

namespace Keyring.Text

/-! ## Digits -/

/-- The numbers of the characters that are a digit zero. -/
def digitZeros : List Nat := [
    0x30, 0x660, 0x6F0, 0x7C0, 0x966, 0x9E6, 0xA66, 0xAE6, 0xB66, 0xBE6, 0xC66, 0xCE6, 0xD66,
    0xDE6, 0xE50, 0xED0, 0xF20, 0x1040, 0x1090, 0x17E0, 0x1810, 0x1946, 0x19D0, 0x1A80, 0x1A90,
    0x1B50, 0x1BB0, 0x1C40, 0x1C50, 0xA620, 0xA8D0, 0xA900, 0xA9D0, 0xA9F0, 0xAA50, 0xABF0,
    0xFF10, 0x104A0, 0x10D30, 0x11066, 0x110F0, 0x11136, 0x111D0, 0x112F0, 0x11450, 0x114D0,
    0x11650, 0x116C0, 0x11730, 0x118E0, 0x11950, 0x11C50, 0x11D50, 0x11DA0, 0x16A60, 0x16AC0,
    0x16B50, 0x1D7CE, 0x1D7D8, 0x1D7E2, 0x1D7EC, 0x1D7F6, 0x1E140, 0x1E2F0, 0x1E950, 0x1FBF0]

/-- The value of a decimal digit of any script. -/
def digitValue? (c : Char) : Option Nat :=
  (digitZeros.find? fun z => z ≤ c.toNat && c.toNat ≤ z + 9).map (c.toNat - ·)

/-! ## Numerals -/

/-- The number that base-ten digits spell. -/
def ofDigits (ds : List Nat) : Nat :=
  ds.foldl (fun acc d => acc * 10 + d) 0

/-- The digits of a numeral; an underscore has a digit on either side. -/
def numeralDigits : List Char → Option (List Nat)
  | [] => none
  | [c] => (digitValue? c).map ([·])
  | c :: d :: rest => do
    let v ← digitValue? c
    let more ← numeralDigits (if d = '_' then rest else d :: rest)
    pure (v :: more)
termination_by cs => cs.length
decreasing_by split <;> (simp only [List.length_cons]; omega)

/-- Whether a blank beside a numeral does not count. -/
def besideNumeral (c : Char) : Bool :=
  isBlank c && !(0x1C ≤ c.toNat && c.toNat ≤ 0x1F)

/-- The number that digits without a sign spell. -/
def nat? (cs : List Char) : Option Nat := do
  let digits ← numeralDigits cs
  if digits.length ≤ Number.maxDigits then pure (ofDigits digits) else none

/-- The whole number that a text spells. -/
def int? (s : String) : Option Int :=
  match trimBoth besideNumeral s.toList with
  | '-' :: cs => (nat? cs).map fun n => -(n : Int)
  | '+' :: cs => (nat? cs).map Int.ofNat
  | cs => (nat? cs).map Int.ofNat

end Keyring.Text
