/-
# Reading what was written

Numbers, tags and fields that were written are read back, whatever follows them.

* `spells_writeVarint` and `spells_writeTag` are about the parts of a field.
* `spells_writeNumber` and `spells_writeMessage` are about the two kinds of field that are written.
* `writeVarint_append_inj`, `writeNumber_append_inj` and `writeMessage_injective` tell what was
  written apart, however large it is.
* `length_writeMessage_le` bounds what a field takes beside the bytes in it.
-/
import Keyring.Proofs.Wire.Reading
import Keyring.Wire.Scalar
import Mathlib.Tactic.NormNum
import Mathlib.Tactic.NthRewrite

namespace Keyring.Wire

/-! ## Numbers and tags -/

/-- A number that has room in `most + 1` groups of seven bits is read back from its shortest form.
-/
lemma spells_writeVarint {most v : Nat} (hv : v < 128 ^ (most + 1)) :
    Spells (readVarint (most + 1)) v (writeVarint v) := by
  induction most generalizing v with
  | zero =>
    intro tail
    have hbyte : (UInt8.ofNat v).toNat = v := by
      rw [UInt8.toNat_ofNat']
      omega
    rw [writeVarint, if_pos (by omega), List.cons_append, readVarint, hbyte, if_pos (by omega),
      List.nil_append]
  | succ most ih =>
    intro tail
    rw [writeVarint]
    by_cases hsmall : v < 128
    · have hbyte : (UInt8.ofNat v).toNat = v := by
        rw [UInt8.toNat_ofNat']
        omega
      rw [if_pos hsmall, List.cons_append, readVarint, hbyte, if_pos hsmall, List.nil_append]
    · have hbyte : (UInt8.ofNat (v % 128 + 128)).toNat = v % 128 + 128 := by
        rw [UInt8.toNat_ofNat']
        omega
      have hrest : v / 128 < 128 ^ (most + 1) := by
        rw [Nat.div_lt_iff_lt_mul (by decide), ← Nat.pow_succ]
        exact hv
      have hsum : v % 128 + 128 - 128 + 128 * (v / 128) = v := by omega
      rw [if_neg hsmall, List.cons_append, readVarint, hbyte, if_neg (by omega), ih hrest tail]
      simp only [Option.map_some, hsum]

lemma spells_writeValue {v : Nat} (hv : v < 2 ^ 64) : Spells readValue v (writeVarint v) := by
  intro tail
  have hgroups : v < 128 ^ (9 + 1) := hv.trans (by norm_num)
  have hmod : v % 0x10000000000000000 = v := Nat.mod_eq_of_lt hv
  rw [readValue, valueBytes, spells_writeVarint hgroups tail]
  simp only [Option.map_some, hmod]

lemma spells_writeTag {number code : Nat} {kind : Kind} (hkind : Kind.ofCode? code = some kind)
    (hpos : 0 < number) (hlt : number < 2 ^ 29) :
    Spells readTag ⟨number, kind⟩ (writeTag number code) := by
  intro tail
  have hcode : code < 8 := by
    unfold Kind.ofCode? at hkind
    split at hkind
    all_goals first | omega | cases hkind
  have hgroups : 8 * number + code < 128 ^ (4 + 1) := by
    have : (128 : Nat) ^ (4 + 1) = 2 ^ 35 := by norm_num
    omega
  have hrange : 8 * number + code < 0x100000000 ∧ 8 ≤ 8 * number + code := by omega
  have hmod : (8 * number + code) % 8 = code := by omega
  have hdiv : (8 * number + code) / 8 = number := by omega
  rw [writeTag, readTag, tagBytes, spells_writeVarint hgroups tail]
  simp only [Option.bind_eq_bind, Option.bind_some, hrange, and_self, if_true, hmod, hkind, hdiv]

/-! ## Fields -/

section Fields

variable {number : Nat} (hpos : 0 < number) (hlt : number < 2 ^ 29)
include hpos hlt

lemma spells_writeNumber {v : Nat} (hv : v < 2 ^ 64) (room : Nat) :
    Spells (readField room) ⟨number, .number v, writeTag number 0 ++ writeVarint v⟩
      (writeTag number 0 ++ writeVarint v) := by
  intro tail
  rw [List.append_assoc, readField, spells_writeTag rfl hpos hlt]
  simp only [Option.bind_eq_bind, Option.bind_some, readContent, readPlain,
    spells_writeValue hv tail, Option.map_some]
  congr 3
  rw [← List.append_assoc, @List.length_append _ _ tail, Nat.add_sub_cancel, List.take_left' rfl]

lemma spells_writeMessage {b : Bytes} (hb : b.length < 2 ^ 64) (room : Nat) :
    Spells (readField room) ⟨number, .bytes b, writeMessage number b⟩ (writeMessage number b) := by
  intro tail
  have hbytes : readBytes b.length (b ++ tail) = some (b, tail) := by
    rw [readBytes, if_pos (by rw [List.length_append]; omega), List.take_left' rfl,
      List.drop_left' rfl]
  have hraw : (writeMessage number b ++ tail).take
      ((writeMessage number b ++ tail).length - tail.length) = writeMessage number b := by
    rw [List.length_append, Nat.add_sub_cancel, List.take_left' rfl]
  rw [readField]
  nth_rewrite 1 [writeMessage]
  rw [List.append_assoc, List.append_assoc, spells_writeTag rfl hpos hlt]
  simp only [Option.bind_eq_bind, Option.bind_some, readContent, readPlain,
    spells_writeValue hb (b ++ tail), hbytes, hraw]

end Fields

/-! ## Telling what was written apart -/

/-- The shortest forms of two numbers, however large, are the same only if the numbers are, whatever
follows them. -/
lemma writeVarint_append_inj {v w : Nat} {a b : Bytes}
    (h : writeVarint v ++ a = writeVarint w ++ b) : v = w ∧ a = b := by
  -- there is room for both numbers in so many groups
  have hroom : v + w < 128 ^ (v + w + 1) :=
    (Nat.lt_succ_self _).trans (Nat.lt_pow_self (by decide))
  exact (spells_writeVarint (Nat.lt_of_le_of_lt (Nat.le_add_right v w) hroom)).unique
    (spells_writeVarint (Nat.lt_of_le_of_lt (Nat.le_add_left w v) hroom)) h

/-- A number that is not left out is told apart by its field. -/
lemma writeNumber_append_inj {number v w : Nat} {a b : Bytes} (hv : v ≠ 0) (hw : w ≠ 0)
    (h : writeNumber number v ++ a = writeNumber number w ++ b) : v = w ∧ a = b := by
  rw [writeNumber, writeNumber, if_neg hv, if_neg hw, List.append_assoc, List.append_assoc] at h
  exact writeVarint_append_inj (List.append_cancel_left h)

lemma writeMessage_injective (number : Nat) : Function.Injective (writeMessage number) := by
  intro a b h
  rw [writeMessage, writeMessage, List.append_assoc, List.append_assoc] at h
  exact (writeVarint_append_inj (List.append_cancel_left h)).2

/-! ## Numbers of 32 bits -/

lemma asUnsigned_eq_ok_iff {v : Int} {a : UInt32} :
    asUnsigned v = .ok a ↔ (a.toNat : Int) = v := by
  rw [asUnsigned]
  constructor
  · intro h
    split at h
    · obtain rfl := Except.ok.inj h
      rw [UInt32.toNat_ofNat']
      omega
    · cases h
  · rintro rfl
    have ha := a.toNat_lt
    rw [if_pos (by omega), Int.toNat_natCast, UInt32.ofNat_toNat]

lemma asSigned_eq_ok_iff {v : Int} {a : Int32} : asSigned v = .ok a ↔ a.toInt = v := by
  rw [asSigned]
  constructor
  · intro h
    split at h
    · obtain rfl := Except.ok.inj h
      rw [Int32.toInt_ofInt, Int.bmod_def, Int32.size]
      norm_num
      omega
    · cases h
  · rintro rfl
    have hlow := a.le_toInt
    have hhigh := a.toInt_lt
    rw [if_pos (by omega), Int32.ofInt_toInt]

lemma toUnsigned_toNat (a : UInt32) : toUnsigned a.toNat = a :=
  UInt32.ofNat_toNat

lemma toNat_lt (a : UInt32) : a.toNat < 2 ^ 64 :=
  a.toNat_lt.trans (by decide)

lemma ofSigned_lt (a : Int32) : ofSigned a < 2 ^ 64 := by
  have h : a.toInt % 0x10000000000000000 < 0x10000000000000000 := Int.emod_lt_of_pos _ (by decide)
  rw [ofSigned]
  omega

/-- A signed number is read back from the 64-bit number with the same sign. -/
lemma toSigned_ofSigned (a : Int32) : toSigned (ofSigned a) = a := by
  -- both sides agree modulo the 32 bits that are kept, and a signed number is within its bounds
  apply Int32.toInt_inj.1
  have hlow := a.le_toInt
  have hhigh := a.toInt_lt
  have hpos : 0 ≤ a.toInt % 0x10000000000000000 := Int.emod_nonneg _ (by decide)
  rw [toSigned, ofSigned, Int.toNat_of_nonneg hpos, Int32.toInt_ofInt, Int.bmod_def, Int32.size]
  norm_num
  omega

lemma eq_zero_of_ofSigned {a : Int32} (h : ofSigned a = 0) : a = 0 := by
  rw [← toSigned_ofSigned a, h]
  rfl

/-! ## Lengths -/

lemma length_writeVarint_le {most v : Nat} (hv : v < 128 ^ (most + 1)) :
    (writeVarint v).length ≤ most + 1 := by
  induction most generalizing v with
  | zero =>
    rw [writeVarint, if_pos (by omega), List.length_singleton]
  | succ most ih =>
    rw [writeVarint]
    by_cases hsmall : v < 128
    · rw [if_pos hsmall, List.length_singleton]
      omega
    · have hrest : v / 128 < 128 ^ (most + 1) := by
        rw [Nat.div_lt_iff_lt_mul (by decide), ← Nat.pow_succ]
        exact hv
      rw [if_neg hsmall, List.length_cons]
      exact Nat.succ_le_succ (ih hrest)

lemma length_writeValue_le {v : Nat} (hv : v < 2 ^ 64) : (writeVarint v).length ≤ 9 + 1 :=
  length_writeVarint_le (hv.trans (by norm_num))

section Numbers

variable {number : Nat} (hlt : number < 2 ^ 29)
include hlt

lemma length_writeTag_le {code : Nat} (hcode : code < 8) : (writeTag number code).length ≤ 10 :=
  length_writeValue_le (by omega)

lemma length_writeNumber_le {v : Nat} (hv : v < 2 ^ 64) : (writeNumber number v).length ≤ 20 := by
  have htag := length_writeTag_le hlt (by decide : 0 < 8)
  have hvalue := length_writeValue_le hv
  rw [writeNumber]
  split
  · exact Nat.zero_le _
  · rw [List.length_append]
    omega

/-- A message takes at most twenty bytes beside its content. -/
lemma length_writeMessage_le {b : Bytes} (hb : b.length < 2 ^ 64) :
    (writeMessage number b).length ≤ b.length + 20 := by
  have htag := length_writeTag_le hlt (by decide : 2 < 8)
  have hlen := length_writeValue_le hb
  rw [writeMessage, List.length_append, List.length_append]
  omega

lemma length_writeBytes_le {b : Bytes} (hb : b.length < 2 ^ 64) :
    (writeBytes number b).length ≤ b.length + 20 := by
  rw [writeBytes]
  split
  · exact Nat.zero_le _
  · exact length_writeMessage_le hlt hb

end Numbers

end Keyring.Wire
