/-
# Texts as JSON

What the encoder writes for a text is read back as that text, whatever its characters are.

* `readChar_escapeChar` goes through the ways in which a character is written.
* `readString_string` and `readTree_string`: a string is read back.
-/
import Keyring.Json.Encode
import Keyring.Proofs.Bytes.Text
import Keyring.Proofs.Json.Reader
import Mathlib.Data.Char

namespace Keyring.Json

/-! ## Escapes -/

lemma readUnit_hexPadded {n : Nat} (h : n < 0x10000) (rest : List Char) :
    readUnit (Bytes.hexPadded 4 n ++ rest) = some (n, rest) := by
  simp only [Bytes.hexPadded, List.nil_append, List.cons_append, readUnit]
  rw [Bytes.hexValue?_hexDigit (Nat.mod_lt _ (by decide)),
    Bytes.hexValue?_hexDigit (Nat.mod_lt _ (by decide)),
    Bytes.hexValue?_hexDigit (Nat.mod_lt _ (by decide)),
    Bytes.hexValue?_hexDigit (Nat.mod_lt _ (by decide))]
  simp only [Option.bind_eq_bind, Option.bind_some, Option.some.injEq, Prod.mk.injEq, and_true]
  omega

lemma readChar_unicodeEscape (n : Nat) (rest : List Char) :
    readChar (unicodeEscape n ++ rest) = readNumbered (Bytes.hexPadded 4 n ++ rest) := rfl

lemma readNumbered_of_short {n : Nat} (h : n < 0xD800 ∨ 0xDFFF < n ∧ n < 0x10000)
    (rest : List Char) :
    readNumbered (Bytes.hexPadded 4 n ++ rest) = some (Char.ofNat n, rest) := by
  have hhigh : ¬ (0xD800 ≤ n ∧ n < 0xDC00) := by omega
  have hlow : ¬ (0xDC00 ≤ n ∧ n < 0xE000) := by omega
  rw [readNumbered, readUnit_hexPadded (by omega), Option.bind_eq_bind, Option.bind_some]
  dsimp only
  rw [if_neg hhigh, if_neg hlow]

/-- The two halves of a surrogate pair. -/
lemma readNumbered_of_pair {n : Nat} (h : n < 0x100000) (rest : List Char) :
    readNumbered (Bytes.hexPadded 4 (0xD800 + n / 0x400)
        ++ (unicodeEscape (0xDC00 + n % 0x400) ++ rest))
      = some (Char.ofNat (0x10000 + n), rest) := by
  have hhigh : 0xD800 ≤ 0xD800 + n / 0x400 ∧ 0xD800 + n / 0x400 < 0xDC00 := by omega
  have hlow : 0xDC00 ≤ 0xDC00 + n % 0x400 ∧ 0xDC00 + n % 0x400 < 0xE000 := by omega
  have hsum : 0x10000 + (0xD800 + n / 0x400 - 0xD800) * 0x400 + (0xDC00 + n % 0x400 - 0xDC00)
      = 0x10000 + n := by omega
  rw [readNumbered, readUnit_hexPadded (by omega), Option.bind_eq_bind, Option.bind_some]
  dsimp only
  rw [if_pos hhigh, unicodeEscape, List.cons_append, List.cons_append, readLowHalf,
    readUnit_hexPadded (by omega), Option.bind_eq_bind, Option.bind_some]
  dsimp only
  rw [if_pos hlow, hsum]

/-- A character that is escaped by its number is read back. -/
lemma readChar_escapeNumber (c : Char) (rest : List Char) :
    readChar (escapeNumber c.toNat ++ rest) = some (c, rest) := by
  have hvalid : c.toNat < 0xD800 ∨ 0xDFFF < c.toNat ∧ c.toNat < 0x110000 := c.valid
  rw [escapeNumber]
  split
  · rw [readChar_unicodeEscape, readNumbered_of_short (by omega), Char.ofNat_toNat]
  · rename_i hlong
    have hsum : 0x10000 + (c.toNat - 0x10000) = c.toNat := by omega
    rw [List.append_assoc, readChar_unicodeEscape, readNumbered_of_pair (by omega), hsum,
      Char.ofNat_toNat]

/-- A character that is written as it is. -/
lemma readChar_plain {c : Char} (hescape : c ≠ '\\') (hlow : ¬ c.toNat < 0x20) (rest : List Char) :
    readChar (c :: rest) = some (c, rest) := by
  unfold readChar
  split
  all_goals simp_all

/-- However a character is written, it is read back. -/
lemma readChar_escapeChar (ascii : Bool) (c : Char) (rest : List Char) :
    readChar (escapeChar ascii c ++ rest) = some (c, rest) := by
  unfold escapeChar
  -- the seven characters that have an escape of their own
  iterate 7
    split
    · subst_vars
      rfl
  split
  · exact readChar_escapeNumber c rest
  · rename_i hescape _ _ _ _ _ hplain
    refine readChar_plain hescape ?_ rest
    simp only [Bool.or_eq_true, decide_eq_true_eq, not_or] at hplain
    exact hplain.1

/-! ## Strings -/

/-- No character is written with a quote in front. -/
lemma head?_escapeChar (ascii : Bool) (c : Char) (rest : List Char) :
    (escapeChar ascii c ++ rest).head? ≠ some '"' := by
  unfold escapeChar escapeNumber unicodeEscape
  split_ifs <;> simp_all

/-- A string is read back from behind its opening quote. -/
lemma readString_string (ascii : Bool) (s rest : List Char) :
    readString (s.flatMap (escapeChar ascii) ++ '"' :: rest) = some (s, rest) := by
  induction s with
  | nil =>
    rw [readString, List.flatMap_nil, List.nil_append]
    rfl
  | cons c s ih =>
    rw [List.flatMap_cons, List.append_assoc, readString, if_neg (head?_escapeChar ascii c _)]
    split
    · rename_i hnone
      rw [readChar_escapeChar] at hnone
      cases hnone
    · rename_i hsome
      rw [readChar_escapeChar] at hsome
      cases hsome
      rw [ih]
      rfl

lemma readTree_string (ascii : Bool) (s : String) {fuel : Nat} (rest : List Char) :
    readTree (fuel + 1) (string ascii s ++ rest) = some (.text s, rest) := by
  have hskip : skipSpace (string ascii s ++ rest)
      = '"' :: (s.toList.flatMap (escapeChar ascii) ++ '"' :: rest) := by
    rw [string, List.cons_append, List.append_assoc]
    rfl
  rw [readTree, hskip]
  simp only [readString_string, Option.map_some, String.ofList_toList]

end Keyring.Json
