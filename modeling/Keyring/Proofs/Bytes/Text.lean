/-
# Bytes and text

* `text?_ofText` and `ofText_of_text?`: text and its UTF-8 spelling determine each other.
* `ofText_injective` is the half of it that compares spellings.
* `ofHex?_hex`: hexadecimal digits are read back, so by `hex_injective` they tell which bytes they
  stand for.
-/
import Keyring.Bytes
import Mathlib.Tactic.Lemma

namespace Keyring.Bytes

/-! ## UTF-8 -/

lemma text?_ofText (s : String) : text? (ofText s) = some s := by
  rw [text?, ofText, Array.toArray_toList, String.fromUTF8?, dif_pos s.isValidUTF8]
  rfl

lemma ofText_of_text? {b : Bytes} {s : String} (h : text? b = some s) : ofText s = b := by
  rw [text?, String.fromUTF8?] at h
  split at h
  · obtain rfl := Option.some.inj h
    rfl
  · cases h

lemma ofText_injective {s t : String} (h : ofText s = ofText t) : s = t := by
  have hs := text?_ofText s
  rw [h, text?_ofText t] at hs
  exact (Option.some.inj hs).symm

/-! ## Hexadecimal digits -/

lemma hexValue?_hexDigit {v : Nat} (h : v < 16) : hexValue? (hexDigit v) = some v := by
  have hall : ∀ v < 16, hexValue? (hexDigit v) = some v := by decide
  exact hall v h

/-- The two digits of a byte are read back. -/
lemma ofHexDigits_hexPadded (x : UInt8) (rest : List Char) :
    ofHexDigits (hexPadded 2 x.toNat ++ rest) = (ofHexDigits rest).map (x :: ·) := by
  have hx := x.toNat_lt
  have hhalves : 16 * (x.toNat / 16 % 16) + x.toNat % 16 = x.toNat := by omega
  simp only [hexPadded, List.nil_append, List.cons_append, ofHexDigits]
  rw [hexValue?_hexDigit (Nat.mod_lt _ (by decide)), hexValue?_hexDigit (Nat.mod_lt _ (by decide))]
  simp only [Option.bind_eq_bind, Option.bind_some, hhalves, UInt8.ofNat_toNat]
  cases ofHexDigits rest <;> rfl

lemma ofHex?_hex (b : Bytes) : ofHex? b.hex = some b := by
  rw [ofHex?, hex, String.toList_ofList]
  induction b with
  | nil => rfl
  | cons x b ih => rw [List.flatMap_cons, ofHexDigits_hexPadded, ih, Option.map_some]

lemma hex_injective {a b : Bytes} (h : a.hex = b.hex) : a = b := by
  have ha := ofHex?_hex a
  rw [h, ofHex?_hex b] at ha
  exact (Option.some.inj ha).symm

end Keyring.Bytes
