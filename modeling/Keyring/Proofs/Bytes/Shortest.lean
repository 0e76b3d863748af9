/-
# The shortest spelling

The spellings of an integer differ in how many zero bytes stand in front.  The one that is written
has none there, or for zero a single one and nothing else, so it is the shortest; and how long it is
goes by the binary digits of the integer.

* `IsShortest` says what the shortest spelling is, and `isShortest_ofNat` that it is what is
  written.
* `ofNat_toNat`: what is read and written again has lost the zero bytes in front.
* `bitLength_toNat` counts the binary digits of what is read by the bytes behind those.
* `asMaterial_shortest` is all this together.
-/
import Keyring.Proofs.Bytes.Integer
import Keyring.Wire.Scalar
import Mathlib.Data.List.Basic
import Mathlib.Data.List.TakeWhile

namespace Keyring

/-! ## Binary digits -/

lemma bitLength_eq_of_bounds {v k : Nat} (hlow : 2 ^ k ≤ v) (hhigh : v < 2 ^ (k + 1)) :
    bitLength v = k + 1 := by
  have hv : v ≠ 0 := (Nat.two_pow_pos k |>.trans_le hlow).ne'
  rw [bitLength, if_neg hv, (Nat.log2_eq_iff hv).2 ⟨hlow, hhigh⟩]

namespace Bytes

/-- The bytes behind the zero bytes in front. -/
def significant (b : Bytes) : Bytes :=
  b.dropWhile (· == 0)

/-- The number of zero bits in front of the first one bit of the first byte. -/
def leadingZeroBits : Bytes → Nat
  | [] => 0
  | x :: _ => x.toBitVec.clz.toNat

/-- The bytes spell an integer, and all others that spell it are more; no bytes at all, which would
spell zero, do not count. -/
structure IsShortest (v : Nat) (b : Bytes) : Prop where
  ne_nil : b ≠ []
  spells : b.toNat = v
  least : ∀ c : Bytes, c ≠ [] → c.toNat = v → c = b ∨ b.length < c.length

variable {a b : Bytes} {v : Nat} {x : UInt8}

/-! ## Zero bytes in front -/

lemma head?_significant_ne (b : Bytes) : b.significant.head? ≠ some 0 := by
  intro h
  have hfirst := List.head?_dropWhile_not (· == (0 : UInt8)) b
  rw [significant] at h
  rw [h] at hfirst
  cases hfirst

lemma significant_eq_self (h : b.head? ≠ some 0) : b.significant = b := by
  cases b with
  | nil => rfl
  | cons x b =>
    rw [significant, List.dropWhile_cons, if_neg]
    exact fun hzero => h (congrArg some (eq_of_beq hzero))

@[simp] lemma toNat_significant (b : Bytes) : b.significant.toNat = b.toNat := by
  induction b with
  | nil => rfl
  | cons x b ih =>
    rw [significant, List.dropWhile_cons]
    split
    · next hzero =>
      rw [eq_of_beq hzero, toNat_zero_cons]
      exact ih
    · rfl

/-- An integer has one spelling that does not begin with a zero byte. -/
lemma eq_of_toNat_eq (ha : a.head? ≠ some 0) (hb : b.head? ≠ some 0) (h : a.toNat = b.toNat) :
    a = b := by
  obtain ⟨c, i, j, rfl, rfl⟩ := toNat_eq_toNat_iff.1 h
  have hnone : ∀ k : Nat, (List.replicate k 0 ++ c).head? ≠ some 0 → k = 0 := by
    intro k hk
    cases k with
    | zero => rfl
    | succ k => exact absurd rfl hk
  rw [hnone i ha, hnone j hb]

lemma significant_eq_nil_iff : b.significant = [] ↔ b.toNat = 0 := by
  constructor
  · intro h
    rw [← toNat_significant, h, toNat_nil]
  · intro h
    exact eq_of_toNat_eq (head?_significant_ne b) nofun ((toNat_significant b).trans h)

/-! ## What is written -/

@[simp] lemma ofNat_zero : ofNat 0 = [0] := by
  rw [ofNat, if_pos (by decide)]
  rfl

/-- Only zero is written with a zero byte in front. -/
lemma head?_ofNat (v : Nat) : (ofNat v).head? = some 0 ↔ v = 0 := by
  fun_induction ofNat v with
  | case1 v h =>
    rw [List.head?_cons, Option.some_inj, ← UInt8.toNat_inj, UInt8.toNat_ofNat',
      Nat.mod_eq_of_lt h]
    rfl
  | case2 v h ih =>
    rw [List.head?_append_of_ne_nil _ (ofNat_ne_nil _), ih]
    omega

/-- What is read and written again has lost the zero bytes in front. -/
lemma ofNat_toNat (b : Bytes) :
    ofNat b.toNat = if b.significant = [] then [0] else b.significant := by
  split
  · next h => rw [significant_eq_nil_iff.1 h, ofNat_zero]
  · next h =>
    have hfirst : (ofNat b.toNat).head? ≠ some 0 := by
      rwa [Ne, head?_ofNat, ← significant_eq_nil_iff]
    exact eq_of_toNat_eq hfirst (head?_significant_ne b) (by rw [toNat_ofNat, toNat_significant])

/-- Every spelling ends with the one that is written. -/
lemma ofNat_toNat_suffix (hb : b ≠ []) : ofNat b.toNat <:+ b := by
  rw [ofNat_toNat]
  split
  · next h =>
    -- all bytes are zero, the last one too
    have hlast : b.getLast hb = 0 :=
      eq_of_beq (List.dropWhile_eq_nil_iff.1 h _ (List.getLast_mem hb))
    exact ⟨b.dropLast, hlast ▸ List.dropLast_concat_getLast hb⟩
  · exact List.dropWhile_suffix _

lemma isShortest_ofNat (v : Nat) : IsShortest v (ofNat v) where
  ne_nil := ofNat_ne_nil v
  spells := toNat_ofNat v
  least := by
    rintro c hc rfl
    have hsuffix := ofNat_toNat_suffix hc
    rcases hsuffix.length_le.lt_or_eq with hlt | heq
    · exact .inr hlt
    · exact .inl (hsuffix.eq_of_length heq).symm

/-! ## Counting binary digits -/

/-- A byte reaches the power of two that its first one bit stands for. -/
lemma two_pow_le_toNat (hx : x ≠ 0) : 2 ^ (7 - x.toBitVec.clz.toNat) ≤ x.toNat :=
  BitVec.two_pow_sub_clz_le_toNat_of_ne_zero (by decide) fun h => hx (UInt8.toBitVec_inj.1 h)

lemma clz_lt (hx : x ≠ 0) : x.toBitVec.clz.toNat < 8 := by
  by_contra h
  have hlt : x.toNat < 2 ^ (8 - x.toBitVec.clz.toNat) := BitVec.toNat_lt_two_pow_sub_clz
  rw [show 8 - x.toBitVec.clz.toNat = 0 by omega] at hlt
  exact hx (UInt8.toNat_inj.1 (by simpa using hlt))

lemma leadingZeroBits_lt (hb : b.head? ≠ some 0) : b.leadingZeroBits < 8 := by
  cases b with
  | nil => decide
  | cons x b => exact clz_lt fun hx => hb (congrArg some hx)

/-- A first byte that is not zero has its own binary digits, and each byte behind it has eight. -/
lemma bitLength_toNat_cons (hx : x ≠ 0) (b : Bytes) :
    bitLength (toNat (x :: b)) + x.toBitVec.clz.toNat = 8 * (x :: b).length := by
  have hclz := clz_lt hx
  have hpow : 256 ^ b.length = 2 ^ (8 * b.length) := by
    rw [show (256 : Nat) = 2 ^ 8 by norm_num, ← pow_mul]
  have hlow : 2 ^ (7 - x.toBitVec.clz.toNat + 8 * b.length) ≤ toNat (x :: b) := by
    rw [toNat_cons, pow_add, ← hpow]
    exact Nat.le_add_right_of_le (Nat.mul_le_mul_right _ (two_pow_le_toNat hx))
  have hhigh : toNat (x :: b) < 2 ^ (7 - x.toBitVec.clz.toNat + 8 * b.length + 1) := by
    have hlt : x.toNat < 2 ^ (8 - x.toBitVec.clz.toNat) := BitVec.toNat_lt_two_pow_sub_clz
    calc toNat (x :: b) = x.toNat * 256 ^ b.length + toNat b := toNat_cons x b
      _ < (x.toNat + 1) * 256 ^ b.length := by
        rw [Nat.succ_mul]
        exact Nat.add_lt_add_left (toNat_lt b) _
      _ ≤ 2 ^ (8 - x.toBitVec.clz.toNat) * 256 ^ b.length := Nat.mul_le_mul_right _ hlt
      _ = 2 ^ (7 - x.toBitVec.clz.toNat + 8 * b.length + 1) := by
        rw [hpow, ← pow_add]
        congr 1
        omega
  rw [bitLength_eq_of_bounds hlow hhigh, List.length_cons]
  omega

/-- There are eight binary digits for each byte behind the zero bytes in front, less the zero bits
in front. -/
lemma bitLength_toNat (b : Bytes) :
    bitLength b.toNat + b.significant.leadingZeroBits = 8 * b.significant.length := by
  rw [← toNat_significant]
  have hfirst := head?_significant_ne b
  cases hb : b.significant with
  | nil => rfl
  | cons x c =>
    rw [hb] at hfirst
    exact bitLength_toNat_cons (fun hx => hfirst (congrArg some hx)) c

/-- As many bytes are written as the binary digits fill, and one for zero. -/
lemma length_ofNat (v : Nat) : (ofNat v).length = max 1 (byteLength v) := by
  by_cases hv : v = 0
  · rw [hv, ofNat_zero]
    rfl
  · have hfirst : (ofNat v).head? ≠ some 0 := fun h => hv ((head?_ofNat v).1 h)
    have hbits := bitLength_toNat (ofNat v)
    have hzeros := leadingZeroBits_lt hfirst
    have hpos := List.length_pos_iff.2 (ofNat_ne_nil v)
    rw [significant_eq_self hfirst, toNat_ofNat] at hbits
    rw [byteLength]
    omega

/-! ## All together -/

/-- An integer that is not negative is written as its shortest spelling, which begins with a zero
byte for zero only and fills the bytes that the binary digits need.  What is read from bytes and
written again is the bytes without zero bytes in front, or a zero byte if there are no others, and
the binary digits of what is read are eight for each of those bytes, less the zero bits in front. -/
theorem asMaterial_shortest :
    (∀ v : Nat, Wire.asMaterial v = .ok (ofNat v) ∧ IsShortest v (ofNat v)
        ∧ ((ofNat v).head? = some 0 ↔ v = 0) ∧ (ofNat v).length = max 1 (byteLength v))
      ∧ ∀ b : Bytes,
        Wire.asMaterial b.toNat = .ok (if b.significant = [] then [0] else b.significant)
          ∧ bitLength b.toNat + b.significant.leadingZeroBits = 8 * b.significant.length := by
  have hwritten : ∀ v : Nat, Wire.asMaterial v = .ok (ofNat v) := fun v =>
    if_neg (Int.not_lt.2 (Int.natCast_nonneg v))
  constructor
  · intro v
    exact ⟨hwritten v, isShortest_ofNat v, head?_ofNat v, length_ofNat v⟩
  · intro b
    exact ⟨by rw [hwritten, ofNat_toNat], bitLength_toNat b⟩

/-- Two zero bytes in front are lost, and of the sixteen bits of the others the first seven are
zero. -/
example : significant [0, 0, 1, 44] = [1, 44] ∧ leadingZeroBits [1, 44] = 7
    ∧ bitLength (toNat [0, 0, 1, 44]) = 9 := by
  decide

end Bytes

end Keyring
