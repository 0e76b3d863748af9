/-
# Reading URL-safe base64

* `decode_encode` and `toBytes?_ofBytes`: what is written is read back.
* `mem_alphabet_of_mem_encode`: what is written are letters, digits, `-` and `_` only.
* `length_encode`: how many of them there are.
-/
import Keyring.Proofs.Bytes.Text
import Keyring.Text.Base64Url
import Mathlib.Tactic.Lemma

namespace Keyring.Text.Base64Url

/-- The characters that are written: letters, digits and two signs that may stand in a URL. -/
def alphabet : List Char :=
  "ABCDEFGHIJKLMNOPQRSTUVWXYZabcdefghijklmnopqrstuvwxyz0123456789-_".toList

/-! ## Symbols -/

lemma value?_symbol {v : Nat} (h : v < 64) : value? (symbol v) = some v := by
  have hall : ∀ v < 64, value? (symbol v) = some v := by decide
  exact hall v h

lemma symbol_mem_alphabet (v : Nat) : symbol v ∈ alphabet := by
  by_cases h : v < 64
  · have hall : ∀ v < 64, symbol v ∈ alphabet := by decide +kernel
    exact hall v h
  -- every number above 62 is written like 63
  · rw [symbol, if_neg (by omega), if_neg (by omega), if_neg (by omega), if_neg (by omega)]
    decide

/-! ## Byte strings -/

/-- Eight bits put together from their parts. -/
lemma ofNat_eq {v : Nat} {a : UInt8} (h : v = a.toNat) : UInt8.ofNat v = a := by
  rw [h, UInt8.ofNat_toNat]

lemma decode_encode (b : Bytes) : decode (encode b) = some b := by
  fun_induction encode b with
  | case1 => rfl
  | case2 a =>
    have ha := a.toNat_lt
    rw [decode, value?_symbol (by omega), value?_symbol (by omega)]
    simp only [Option.bind_eq_bind, Option.bind_some]
    rw [if_pos (by omega), ofNat_eq (a := a) (by omega)]
  | case3 a b =>
    have ha := a.toNat_lt
    have hb := b.toNat_lt
    rw [decode, value?_symbol (by omega), value?_symbol (by omega), value?_symbol (by omega)]
    simp only [Option.bind_eq_bind, Option.bind_some]
    rw [if_pos (by omega), ofNat_eq (a := a) (by omega), ofNat_eq (a := b) (by omega)]
  | case4 a b c rest ih =>
    have ha := a.toNat_lt
    have hb := b.toNat_lt
    have hc := c.toNat_lt
    rw [decode, value?_symbol (by omega), value?_symbol (by omega), value?_symbol (by omega),
      value?_symbol (by omega), ih]
    simp only [Option.bind_eq_bind, Option.bind_some]
    rw [ofNat_eq (a := a) (by omega), ofNat_eq (a := b) (by omega), ofNat_eq (a := c) (by omega)]

lemma mem_alphabet_of_mem_encode {b : Bytes} {c : Char} (h : c ∈ encode b) : c ∈ alphabet := by
  fun_induction encode b with
  | case1 => cases h
  | case2 a =>
    simp only [List.mem_cons, List.not_mem_nil, or_false] at h
    rcases h with rfl | rfl <;> exact symbol_mem_alphabet _
  | case3 a b =>
    simp only [List.mem_cons, List.not_mem_nil, or_false] at h
    rcases h with rfl | rfl | rfl <;> exact symbol_mem_alphabet _
  | case4 a b c' rest ih =>
    simp only [List.mem_cons] at h
    rcases h with rfl | rfl | rfl | rfl | h
    · exact symbol_mem_alphabet _
    · exact symbol_mem_alphabet _
    · exact symbol_mem_alphabet _
    · exact symbol_mem_alphabet _
    · exact ih h

/-- Three bytes make four symbols, and one or two that are left over make two or three. -/
lemma length_encode (b : Bytes) : (encode b).length = (4 * b.length + 2) / 3 := by
  fun_induction encode b with
  | case1 => rfl
  | case2 a => simp
  | case3 a b => simp
  | case4 a b c rest ih =>
    simp only [List.length_cons, ih]
    omega

/-! ## Text -/

lemma toBytes?_ofBytes (b : Bytes) : toBytes? (ofBytes b) = some b := by
  rw [toBytes?, ofBytes, String.toList_ofList, decode_encode]

lemma ofText_injective : Function.Injective ofText := by
  intro s t h
  have hbytes := congrArg toBytes? h
  rw [ofText, ofText, toBytes?_ofBytes, toBytes?_ofBytes] at hbytes
  exact Bytes.ofText_injective (Option.some.inj hbytes)

lemma mem_alphabet_of_mem_ofBytes {b : Bytes} {c : Char} (h : c ∈ (ofBytes b).toList) :
    c ∈ alphabet := by
  rw [ofBytes, String.toList_ofList] at h
  exact mem_alphabet_of_mem_encode h

end Keyring.Text.Base64Url
