/-
# The integers that bytes spell

Reading an integer and writing it are inverse to each other, up to zero bytes in front.

* `Bytes.toNat_append` splits an integer between two bytes, and `Bytes.toNat_lt` bounds it by the
  number of bytes.
* `Bytes.toNat_eq_toNat_iff`: two spellings of one integer differ only in zero bytes in front.
* `Bytes.toNat_ofNat` reads back the shortest spelling, `Bytes.toNat_ofNatPadded` and
  `Bytes.ofNatPadded_toNat` the one of a given width.
* `pow_byteLength_le` and `lt_pow_byteLength` say how many bytes an integer fills.
-/
import Keyring.Bytes
import Mathlib.Data.List.Induction
import Mathlib.Tactic.Ring

namespace Keyring

namespace Bytes

/-! ## Reading -/

@[simp] lemma toNat_nil : toNat [] = 0 := rfl

/-- Reading goes on from what was read before. -/
lemma foldl_toNat (b : Bytes) (acc : Nat) :
    b.foldl (fun acc x => acc * 256 + x.toNat) acc = acc * 256 ^ b.length + toNat b := by
  induction b generalizing acc with
  | nil => simp
  | cons x b ih =>
    have h := ih x.toNat
    rw [toNat, List.foldl_cons, List.foldl_cons, ih, Nat.zero_mul, Nat.zero_add, h]
    simp only [List.length_cons]
    ring

lemma toNat_append (a b : Bytes) : toNat (a ++ b) = toNat a * 256 ^ b.length + toNat b := by
  rw [toNat, List.foldl_append]
  exact foldl_toNat b (toNat a)

lemma toNat_cons (x : UInt8) (b : Bytes) :
    toNat (x :: b) = x.toNat * 256 ^ b.length + toNat b := by
  have h : toNat [x] = x.toNat := by simp [toNat]
  rw [← h]
  exact toNat_append [x] b

@[simp] lemma toNat_singleton (x : UInt8) : toNat [x] = x.toNat := by
  simp [toNat]

lemma toNat_lt (b : Bytes) : toNat b < 256 ^ b.length := by
  induction b with
  | nil => simp
  | cons x b ih =>
    have hx : x.toNat ≤ 255 := Nat.le_of_lt_succ x.toNat_lt
    calc toNat (x :: b) = x.toNat * 256 ^ b.length + toNat b := toNat_cons x b
      _ < 255 * 256 ^ b.length + 256 ^ b.length :=
        Nat.add_lt_add_of_le_of_lt (Nat.mul_le_mul_right _ hx) ih
      _ = 256 ^ (x :: b).length := by rw [List.length_cons]; ring

/-- A zero byte in front changes nothing. -/
@[simp] lemma toNat_zero_cons (b : Bytes) : toNat (0 :: b) = toNat b := by
  simp [toNat_cons]

@[simp] lemma toNat_replicate_zero_append (k : Nat) (b : Bytes) :
    toNat (List.replicate k 0 ++ b) = toNat b := by
  induction k with
  | zero => rfl
  | succ k ih => rw [List.replicate_succ, List.cons_append, toNat_zero_cons, ih]

/-! ## Writing -/

/-- The shortest spelling is read back. -/
@[simp] lemma toNat_ofNat (v : Nat) : toNat (ofNat v) = v := by
  fun_induction ofNat v with
  | case1 v h => simp [Nat.mod_eq_of_lt h]
  | case2 v h ih =>
    rw [toNat_append, ih, toNat_singleton]
    simp only [List.length_singleton, pow_one, UInt8.toNat_ofNat']
    omega

/-- A spelling of a given width keeps the low digits. -/
@[simp] lemma toNat_ofNatPadded (width v : Nat) :
    toNat (ofNatPadded width v) = v % 256 ^ width := by
  induction width generalizing v with
  | zero => simp [ofNatPadded, Nat.mod_one]
  | succ w ih =>
    rw [ofNatPadded, toNat_append, ih, toNat_singleton, pow_succ', Nat.mod_mul]
    simp only [List.length_singleton, pow_one, UInt8.toNat_ofNat']
    omega

/-- Bytes are the spelling of their own length of the integer they spell. -/
lemma ofNatPadded_toNat (b : Bytes) : ofNatPadded b.length (toNat b) = b := by
  induction b using List.reverseRecOn with
  | nil => rfl
  | append_singleton b x ih =>
    have hx := x.toNat_lt
    rw [List.length_append, List.length_singleton, ofNatPadded, toNat_append, toNat_singleton,
      List.length_singleton, pow_one, show (toNat b * 256 + x.toNat) / 256 = toNat b by omega, ih,
      show (toNat b * 256 + x.toNat) % 256 = x.toNat by omega, UInt8.ofNat_toNat]

/-- Two spellings of one integer differ only in zero bytes in front. -/
lemma toNat_eq_toNat_iff {a b : Bytes} :
    toNat a = toNat b
      ↔ ∃ (c : Bytes) (i j : Nat), a = List.replicate i 0 ++ c ∧ b = List.replicate j 0 ++ c := by
  constructor
  · intro h
    -- The shorter one, brought to the length of the other, is the other.
    have hpad : ∀ {a b : Bytes}, toNat a = toNat b → a.length ≤ b.length →
        b = List.replicate (b.length - a.length) 0 ++ a := by
      intro a b h hle
      have hlength : (List.replicate (b.length - a.length) 0 ++ a).length = b.length := by
        rw [List.length_append, List.length_replicate, Nat.sub_add_cancel hle]
      rw [← ofNatPadded_toNat (List.replicate (b.length - a.length) 0 ++ a), hlength,
        toNat_replicate_zero_append, h, ofNatPadded_toNat]
    rcases Nat.le_total a.length b.length with hle | hle
    · exact ⟨a, 0, _, rfl, hpad h hle⟩
    · exact ⟨b, _, 0, hpad h.symm hle, rfl⟩
  · rintro ⟨c, i, j, rfl, rfl⟩
    rw [toNat_replicate_zero_append, toNat_replicate_zero_append]

/-- The shortest spelling is no longer than a width that the integer fits in. -/
lemma length_ofNat_le {v width : Nat} (h : v < 256 ^ (width + 1)) :
    (ofNat v).length ≤ width + 1 := by
  induction width generalizing v with
  | zero =>
    rw [ofNat, if_pos (by simpa using h), List.length_singleton]
  | succ width ih =>
    rw [ofNat]
    by_cases hv : v < 256
    · rw [if_pos hv, List.length_singleton]
      omega
    · have hrest : v / 256 < 256 ^ (width + 1) := by
        rw [Nat.div_lt_iff_lt_mul (by decide), ← Nat.pow_succ]
        exact h
      rw [if_neg hv, List.length_append, List.length_singleton]
      exact Nat.succ_le_succ (ih hrest)

end Bytes

/-! ## Lengths -/

lemma lt_two_pow_bitLength (v : Nat) : v < 2 ^ bitLength v := by
  by_cases hv : v = 0
  · simp [bitLength, hv]
  · rw [bitLength, if_neg hv]
    exact Nat.lt_log2_self

lemma two_pow_bitLength_le {v : Nat} (hv : v ≠ 0) : 2 ^ (bitLength v - 1) ≤ v := by
  rw [bitLength, if_neg hv, Nat.add_sub_cancel]
  exact Nat.log2_self_le hv

lemma lt_pow_byteLength (v : Nat) : v < 256 ^ byteLength v := by
  refine lt_of_lt_of_le (lt_two_pow_bitLength v) ?_
  rw [show (256 : Nat) = 2 ^ 8 by norm_num, ← pow_mul]
  exact Nat.pow_le_pow_right (by omega) (by rw [byteLength]; omega)

/-- The first of the bytes that an integer fills is not empty. -/
lemma pow_byteLength_le {v : Nat} (hv : v ≠ 0) : 256 ^ (byteLength v - 1) ≤ v := by
  refine le_trans ?_ (two_pow_bitLength_le hv)
  rw [show (256 : Nat) = 2 ^ 8 by norm_num, ← pow_mul]
  exact Nat.pow_le_pow_right (by omega) (by rw [byteLength]; omega)

end Keyring
