/-
# Numbers are their texts

Two double-precision numbers with the same text are the same number, and no whole number has the
text of a double-precision one.

* `Text.span_append`: a scanner takes characters as long as they are of its kind, so what it was
  meant to take is what it takes if the text behind does not go on with that kind.
* `Decimal.ofScaled_self` and `Decimal.ofScaled_mul_pow`: a decimal number is found from its digits,
  wherever the point stands between them.
* `Double.Spells` is how a decimal number may be spelled, and `Spells.magnitude?_eq` reads any
  spelling back.
* `Double.body_spells` goes through the layouts that the digits of a number get.
* `Double.text_injective` puts the sign, the infinities and not-a-number in.
-/
import Keyring.Number.Double
import Mathlib.Data.List.TakeDrop
import Mathlib.Tactic.Lemma
import Mathlib.Tactic.Ring

/-! ## Scanning -/

namespace Keyring.Text

/-- The text does not begin with a character of the kind `p`. -/
def Stops (p : Char → Bool) (rest : List Char) : Prop :=
  ∀ c ∈ rest.head?, p c = false

variable {p : Char → Bool} {front rest : List Char}

@[simp] lemma stops_nil : Stops p [] := fun _ h => nomatch h

@[simp] lemma stops_cons {c : Char} : Stops p (c :: rest) ↔ p c = false := by
  simp [Stops]

lemma takeWhile_append (hfront : ∀ c ∈ front, p c = true) (hrest : Stops p rest) :
    (front ++ rest).takeWhile p = front := by
  rw [List.takeWhile_append_of_pos hfront]
  cases rest with
  | nil => simp
  | cons c rest => rw [List.takeWhile_cons_of_neg (by simp [stops_cons.1 hrest]), List.append_nil]

lemma dropWhile_append (hfront : ∀ c ∈ front, p c = true) (hrest : Stops p rest) :
    (front ++ rest).dropWhile p = rest := by
  rw [List.dropWhile_append_of_pos hfront]
  cases rest with
  | nil => rfl
  | cons c rest => rw [List.dropWhile_cons_of_neg (by simp [stops_cons.1 hrest])]

lemma span_append (hfront : ∀ c ∈ front, p c = true) (hrest : Stops p rest) :
    (front ++ rest).span p = (front, rest) := by
  rw [List.span_eq_takeWhile_dropWhile, takeWhile_append hfront hrest,
    dropWhile_append hfront hrest]

end Keyring.Text

namespace Keyring.Number

open Text (Stops)

/-! ## Decimal numbers -/

namespace Decimal

lemma ofScaled_zero (exponent : Int) : ofScaled 0 exponent = zero := by
  rw [ofScaled, dif_pos rfl]

/-- The digits of a decimal number have no zero at the end that could move into the power. -/
lemma ofScaled_self (d : Decimal) : ofScaled d.digits d.exponent = d := by
  obtain ⟨digits, exponent, canonical⟩ := d
  rcases canonical with hdigit | ⟨rfl, rfl⟩
  · have hpos : digits ≠ 0 := fun h => hdigit (by rw [h])
    rw [ofScaled, dif_neg hpos, dif_pos hdigit]
  · exact ofScaled_zero 0

/-- Zeros behind the digits are worth as much as powers of ten. -/
lemma ofScaled_mul_pow (digits zeros : Nat) (exponent : Int) :
    ofScaled (digits * 10 ^ zeros) exponent = ofScaled digits (exponent + zeros) := by
  induction zeros generalizing exponent with
  | zero => rw [Nat.pow_zero, Nat.mul_one, Int.natCast_zero, Int.add_zero]
  | succ zeros ih =>
    by_cases h0 : digits = 0
    · rw [h0, Nat.zero_mul, ofScaled_zero, ofScaled_zero]
    · have hten : digits * 10 ^ (zeros + 1) = digits * 10 ^ zeros * 10 := by
        rw [Nat.pow_succ, Nat.mul_assoc]
      have hpos : digits * 10 ^ zeros ≠ 0 :=
        Nat.mul_ne_zero h0 (Nat.ne_of_gt (Nat.pow_pos (by decide)))
      have hsum : exponent + 1 + (zeros : Int) = exponent + ((zeros + 1 : Nat) : Int) := by omega
      rw [hten, ofScaled, dif_neg (by omega), dif_neg (by omega), Nat.mul_div_cancel _ (by decide),
        ih, hsum]

end Decimal

namespace Double

/-! ## Digits -/

/-- The decimal digits of a whole number. -/
abbrev digitsOf (n : Nat) : List Char := Nat.toDigits 10 n

/-- All characters are decimal digits. -/
abbrev AllDigits (cs : List Char) : Prop := ∀ c ∈ cs, c.isDigit = true

lemma allDigits_digitsOf (n : Nat) : AllDigits (digitsOf n) :=
  fun _ h => Nat.isDigit_of_mem_toDigits (by decide) (by decide) h

lemma allDigits_zeros (count : Nat) : AllDigits (List.replicate count '0') := by
  intro c hc
  rw [List.eq_of_mem_replicate hc]
  rfl

lemma AllDigits.append {cs ds : List Char} (hcs : AllDigits cs) (hds : AllDigits ds) :
    AllDigits (cs ++ ds) := by
  intro c hc
  rcases List.mem_append.1 hc with h | h
  · exact hcs c h
  · exact hds c h

lemma natOfDigits_eq (cs : List Char) : natOfDigits cs = Nat.ofDigitChars 10 cs 0 := by
  rw [natOfDigits, Nat.ofDigitChars_eq_foldl]
  simp only [Nat.mul_comm]
  rfl

lemma natOfDigits_digitsOf (n : Nat) : natOfDigits (digitsOf n) = n := by
  rw [natOfDigits_eq, Nat.ofDigitChars_ten_toDigits]

/-- Zeros in front of the digits count for nothing. -/
lemma natOfDigits_zeros_append (zeros : Nat) (cs : List Char) :
    natOfDigits (List.replicate zeros '0' ++ cs) = natOfDigits cs := by
  rw [natOfDigits_eq, natOfDigits_eq, Nat.ofDigitChars_append, Nat.ofDigitChars_replicate_zero,
    Nat.mul_zero]

lemma natOfDigits_append_zeros (cs : List Char) (zeros : Nat) :
    natOfDigits (cs ++ List.replicate zeros '0') = natOfDigits cs * 10 ^ zeros := by
  rw [natOfDigits_eq, natOfDigits_eq, Nat.ofDigitChars_append, Nat.ofDigitChars_replicate_zero,
    Nat.mul_comm]

/-! ## Spellings -/

/-- Digits that may stand in front of a point: there is at least one, and a zero comes first only
if it is the only one. -/
structure IsWhole (cs : List Char) : Prop where
  digits : AllDigits cs
  ne_nil : cs ≠ []
  zero : cs.head? = some '0' → cs = ['0']

lemma isWhole_zero : IsWhole ['0'] :=
  ⟨allDigits_zeros 1, List.cons_ne_nil _ _, fun _ => rfl⟩

lemma head?_append {cs : List Char} (h : cs ≠ []) (ds : List Char) :
    (cs ++ ds).head? = cs.head? := by
  cases cs with
  | nil => exact absurd rfl h
  | cons c cs => rfl

/-- Of the digits of a number above zero the first is no zero. -/
lemma head?_digitsOf_ne_zero {n : Nat} (h : n ≠ 0) : (digitsOf n).head? ≠ some '0' := by
  induction n using Nat.strong_induction_on with
  | _ n ih =>
    rw [digitsOf, Nat.toDigits_eq_if (by decide)]
    split
    · rename_i hsmall
      have hdigit : ∀ m < 10, m ≠ 0 → [m.digitChar].head? ≠ some '0' := by decide
      exact hdigit n hsmall h
    · rw [head?_append Nat.toDigits_ne_nil]
      exact ih (n / 10) (by omega) (by omega)

/-- The text of a power of ten behind digits. -/
def powerText (power : Int) : List Char :=
  let size := digitsOf power.natAbs
  'e' :: (if power < 0 then '-' else '+') :: (if size.length < 2 then '0' :: size else size)

/-- The text spells the decimal number: digits with a point, with a power of ten, or with both. -/
inductive Spells (d : Decimal) : List Char → Prop
  | point {whole fraction : List Char} (hwhole : IsWhole whole) (hne : fraction ≠ [])
      (hfraction : AllDigits fraction)
      (hvalue : .ofScaled (natOfDigits (whole ++ fraction)) (-fraction.length) = d) :
      Spells d (whole ++ '.' :: fraction)
  | power {whole : List Char} {power : Int} (hwhole : IsWhole whole)
      (hvalue : .ofScaled (natOfDigits whole) power = d) :
      Spells d (whole ++ powerText power)
  | both {whole fraction : List Char} {power : Int} (hwhole : IsWhole whole) (hne : fraction ≠ [])
      (hfraction : AllDigits fraction)
      (hvalue : .ofScaled (natOfDigits (whole ++ fraction)) (power - fraction.length) = d) :
      Spells d (whole ++ '.' :: (fraction ++ powerText power))

/-- The size of a power has at least two digits, the first of which may be a zero. -/
lemma size_spec (n : Nat) :
    let size := if (digitsOf n).length < 2 then '0' :: digitsOf n else digitsOf n
    AllDigits size ∧ size ≠ [] ∧ natOfDigits size = n := by
  have hdigits := allDigits_digitsOf n
  have hvalue := natOfDigits_digitsOf n
  dsimp only
  split
  · exact ⟨(allDigits_zeros 1).append hdigits, List.cons_ne_nil _ _,
      (natOfDigits_zeros_append 1 _).trans hvalue⟩
  · exact ⟨hdigits, Nat.toDigits_ne_nil, hvalue⟩

lemma exponentOf?_powerText (power : Int) : exponentOf? (powerText power) = some power := by
  have hread : ∀ negative : Bool, ∀ ds : List Char, AllDigits ds → ds ≠ [] →
      exponentOf? ('e' :: (if negative then '-' else '+') :: ds)
        = some (if negative then -(natOfDigits ds : Int) else natOfDigits ds) := by
    intro negative ds hds hne
    have hempty : ds.isEmpty = false := by simpa using hne
    have hall : ds.all Char.isDigit = true := List.all_eq_true.2 hds
    cases negative <;> simp [exponentOf?, hempty, hall]
  obtain ⟨hdigits, hne, hvalue⟩ := size_spec power.natAbs
  have hsign : power = if power < 0 then -(power.natAbs : Int) else power.natAbs := by
    split <;> omega
  have h := hread (decide (power < 0)) _ hdigits hne
  rw [hvalue] at h
  simp only [decide_eq_true_eq, ← hsign] at h
  exact h

lemma stops_powerText (power : Int) : Stops Char.isDigit (powerText power) :=
  Text.stops_cons.2 rfl

/-- Digits with a point between them are read, and then the power of ten behind them. -/
lemma magnitude?_point {whole fraction tail : List Char} {power : Int} (hne : whole ≠ [])
    (hwhole : AllDigits whole) (hfraction : AllDigits fraction) (htail : Stops Char.isDigit tail)
    (hpower : exponentOf? tail = some power) :
    magnitude? (whole ++ '.' :: (fraction ++ tail))
      = some (.ofScaled (natOfDigits (whole ++ fraction)) (power - fraction.length)) := by
  have hspan : spanDigits (whole ++ '.' :: (fraction ++ tail))
      = (whole, '.' :: (fraction ++ tail)) :=
    Text.span_append hwhole (Text.stops_cons.2 rfl)
  have hspan' : spanDigits (fraction ++ tail) = (fraction, tail) :=
    Text.span_append hfraction htail
  have hempty : whole.isEmpty = false := by simpa using hne
  simp [magnitude?, hspan, hspan', hpower, hempty]

lemma magnitude?_power {whole rest : List Char} {power : Int} (hne : whole ≠ [])
    (hwhole : AllDigits whole) (hpower : exponentOf? ('e' :: rest) = some power) :
    magnitude? (whole ++ 'e' :: rest) = some (.ofScaled (natOfDigits whole) power) := by
  have hspan : spanDigits (whole ++ 'e' :: rest) = (whole, 'e' :: rest) :=
    Text.span_append hwhole (Text.stops_cons.2 rfl)
  have hempty : whole.isEmpty = false := by simpa using hne
  simp [magnitude?, hspan, hpower, hempty]

/-- A number is read back, whichever way it is spelled. -/
lemma Spells.magnitude?_eq {d : Decimal} {cs : List Char} (h : Spells d cs) :
    magnitude? cs = some d := by
  cases h with
  | @point whole fraction hwhole _ hfraction hvalue =>
    have h := magnitude?_point hwhole.ne_nil hwhole.digits hfraction Text.stops_nil rfl
    rwa [List.append_nil, Int.zero_sub, hvalue] at h
  | power hwhole hvalue =>
    rw [← hvalue]
    exact magnitude?_power hwhole.ne_nil hwhole.digits (exponentOf?_powerText _)
  | both hwhole _ hfraction hvalue =>
    rw [magnitude?_point hwhole.ne_nil hwhole.digits hfraction (stops_powerText _)
      (exponentOf?_powerText _), hvalue]

lemma mem_powerText {power : Int} {c : Char} (h : c ∈ powerText power) :
    c.isDigit = true ∨ c ∈ ['.', 'e', '+', '-'] := by
  obtain ⟨hdigits, -, -⟩ := size_spec power.natAbs
  rcases List.mem_cons.1 h with rfl | h
  · exact .inr (by decide)
  rcases List.mem_cons.1 h with rfl | h
  · split <;> exact .inr (by decide)
  · exact .inl (hdigits c h)

/-- What a spelling is made of. -/
lemma Spells.mem {d : Decimal} {cs : List Char} (h : Spells d cs) {c : Char} (hc : c ∈ cs) :
    c.isDigit = true ∨ c ∈ ['.', 'e', '+', '-'] := by
  cases h with
  | point hwhole _ hfraction =>
    rcases List.mem_append.1 hc with hc | hc
    · exact .inl (hwhole.digits c hc)
    rcases List.mem_cons.1 hc with rfl | hc
    · exact .inr (by decide)
    · exact .inl (hfraction c hc)
  | power hwhole =>
    rcases List.mem_append.1 hc with hc | hc
    · exact .inl (hwhole.digits c hc)
    · exact mem_powerText hc
  | both hwhole _ hfraction =>
    rcases List.mem_append.1 hc with hc | hc
    · exact .inl (hwhole.digits c hc)
    rcases List.mem_cons.1 hc with rfl | hc
    · exact .inr (by decide)
    rcases List.mem_append.1 hc with hc | hc
    · exact .inl (hfraction c hc)
    · exact mem_powerText hc

/-- The point and the sign of the power are never all digits. -/
lemma Spells.not_allDigits {d : Decimal} {cs : List Char} (h : Spells d cs) : ¬ AllDigits cs := by
  intro hdigits
  cases h with
  | point => cases hdigits '.' (by simp)
  | power => cases hdigits 'e' (by simp [powerText])
  | both => cases hdigits '.' (by simp)

/-- A spelling begins with a digit. -/
lemma Spells.exists_head {d : Decimal} {cs : List Char} (h : Spells d cs) :
    ∃ c rest, cs = c :: rest ∧ c.isDigit = true := by
  have hfront : ∀ {whole : List Char}, IsWhole whole → ∀ rest : List Char,
      ∃ c ds, whole ++ rest = c :: ds ∧ c.isDigit = true := by
    intro whole hwhole rest
    obtain ⟨c, ds, rfl⟩ := List.exists_cons_of_ne_nil hwhole.ne_nil
    exact ⟨c, ds ++ rest, List.cons_append, hwhole.digits c List.mem_cons_self⟩
  cases h with
  | point hwhole => exact hfront hwhole _
  | power hwhole => exact hfront hwhole _
  | both hwhole => exact hfront hwhole _

/-! ## Layouts -/

/-- However the digits of a number are laid out, they spell it. -/
lemma spells_layout {n : Nat} (h0 : n ≠ 0) (exponent : Int) :
    Spells (.ofScaled n exponent) (layout (digitsOf n) ((digitsOf n).length + exponent)) := by
  have hdigits := allDigits_digitsOf n
  have hvalue := natOfDigits_digitsOf n
  have hhead := head?_digitsOf_ne_zero h0
  have hne : digitsOf n ≠ [] := Nat.toDigits_ne_nil
  generalize digitsOf n = digits at *
  generalize hpoint : (digits.length + exponent : Int) = point
  have hcount : 0 < digits.length := List.length_pos_iff.2 hne
  -- the first digits, as many as there are, may stand in front of the point
  have htake : ∀ count, 0 < count → IsWhole (digits.take count) := by
    intro count hpos
    refine ⟨fun c hc => hdigits c (List.mem_of_mem_take hc), ?_, fun h => absurd ?_ hhead⟩
    · simp only [ne_eq, List.take_eq_nil_iff, hne, or_false]
      omega
    · rwa [List.head?_take, if_neg (by omega)] at h
  unfold layout
  dsimp only
  split
  · split
    · -- all digits are behind the point
      have hzeros : (List.replicate (-point).toNat '0' ++ digits).length
          = (-point).toNat + digits.length := by simp
      refine @Spells.point _ ['0'] _ isWhole_zero (List.append_ne_nil_of_right_ne_nil _ hne)
        ((allDigits_zeros _).append hdigits) ?_
      change Decimal.ofScaled (natOfDigits (List.replicate 1 '0' ++ _)) _ = _
      rw [natOfDigits_zeros_append, natOfDigits_zeros_append, hvalue, hzeros]
      congr 1
      omega
    split
    · -- all digits are in front of the point, and perhaps zeros between them and the point
      have hwhole : IsWhole (digits ++ List.replicate (point.toNat - digits.length) '0') := by
        refine ⟨hdigits.append (allDigits_zeros _), List.append_ne_nil_of_left_ne_nil hne _, ?_⟩
        rw [head?_append hne]
        exact fun h => absurd h hhead
      refine .point hwhole (List.cons_ne_nil _ _) (allDigits_zeros 1) ?_
      change Decimal.ofScaled (natOfDigits (_ ++ List.replicate 1 '0')) (-(1 : Nat)) = _
      rw [natOfDigits_append_zeros, natOfDigits_append_zeros, hvalue, Decimal.ofScaled_mul_pow,
        Decimal.ofScaled_mul_pow]
      congr 1
      omega
    · -- the point is between two digits
      have hdrop : digits.drop point.toNat ≠ [] := by
        rw [ne_eq, List.drop_eq_nil_iff]
        omega
      refine .point (htake _ (by omega)) hdrop (fun c hc => hdigits c (List.mem_of_mem_drop hc)) ?_
      rw [List.take_append_drop, hvalue, List.length_drop]
      congr 1
      omega
  · -- the point is behind the first digit
    rw [List.append_assoc]
    split
    · have hsingle : digits.take 1 = digits := List.take_of_length_le (by assumption)
      refine @Spells.power _ _ (point - 1) (htake 1 (by decide)) ?_
      rw [hsingle, hvalue]
      congr 1
      omega
    · have hdrop : digits.drop 1 ≠ [] := by
        rw [ne_eq, List.drop_eq_nil_iff]
        assumption
      refine @Spells.both _ _ _ (point - 1) (htake 1 (by decide)) hdrop
        (fun c hc => hdigits c (List.mem_of_mem_drop hc)) ?_
      rw [List.take_append_drop, hvalue, List.length_drop]
      congr 1
      omega

/-- The text of a finite number without its sign. -/
def magnitudeText (d : Decimal) : List Char :=
  if d.digits = 0 then ['0', '.', '0']
  else layout (digitsOf d.digits) ((digitsOf d.digits).length + d.exponent)

lemma spells_magnitudeText (d : Decimal) : Spells d (magnitudeText d) := by
  rw [magnitudeText]
  split
  · rename_i h0
    have hzero : Decimal.ofScaled (natOfDigits ['0', '0']) (-1) = d := by
      rw [← d.ofScaled_self, h0, Decimal.ofScaled_zero]
      exact Decimal.ofScaled_zero _
    exact @Spells.point _ ['0'] ['0'] isWhole_zero (List.cons_ne_nil _ _) (allDigits_zeros 1) hzero
  · rename_i h0
    have h := spells_layout h0 d.exponent
    rwa [d.ofScaled_self] at h

/-! ## Signs -/

/-- A text with a minus in front if it is the text of a negative number. -/
def signed (negative : Bool) (cs : List Char) : List Char :=
  if negative then '-' :: cs else cs

/-- A sign is told from the number behind it. -/
lemma signed_inj {s t : Bool} {cs ds : List Char} (hcs : cs.head? ≠ some '-')
    (hds : ds.head? ≠ some '-') (h : signed s cs = signed t ds) : s = t ∧ cs = ds := by
  cases s <;> cases t
  · exact ⟨rfl, h⟩
  · exact absurd (congrArg List.head? h) hcs
  · exact absurd (congrArg List.head? h.symm) hds
  · exact ⟨rfl, (List.cons.inj h).2⟩

/-- Whether there is a minus in front of the text. -/
def sign : Double → Bool
  | .finite negative _ => negative
  | .infinite negative => negative
  | .nan => false

/-- The names of the numbers that are not finite.  They have no sign of their own, and are neither
taken for digits nor for each other. -/
structure Names where
  infinity : List Char
  nan : List Char
  head?_ne : infinity.head? ≠ some '-' ∧ nan.head? ≠ some '-'
  unread : magnitude? infinity = none ∧ magnitude? nan = none
  distinct : infinity ≠ nan

namespace Names

variable {names : Names}

/-- The text of a number without its sign. -/
def unsigned (names : Names) : Double → List Char
  | .finite _ d => magnitudeText d
  | .infinite _ => names.infinity
  | .nan => names.nan

lemma head?_unsigned (x : Double) : (names.unsigned x).head? ≠ some '-' := by
  cases x with
  | finite negative d =>
    obtain ⟨c, rest, hcs, hc⟩ := (spells_magnitudeText d).exists_head
    rw [unsigned, hcs]
    rintro ⟨⟩
    cases hc
  | infinite negative => exact names.head?_ne.1
  | nan => exact names.head?_ne.2

/-- Digits are read behind the sign exactly if the number is finite. -/
lemma magnitude?_unsigned (x : Double) :
    magnitude? (names.unsigned x) = match x with | .finite _ d => some d | _ => none := by
  cases x with
  | finite negative d => exact (spells_magnitudeText d).magnitude?_eq
  | infinite negative => exact names.unread.1
  | nan => exact names.unread.2

/-- A number is known from its sign and its text behind the sign. -/
lemma eq_of_signed_eq {x y : Double}
    (h : signed x.sign (names.unsigned x) = signed y.sign (names.unsigned y)) : x = y := by
  obtain ⟨hsign, hunsigned⟩ := signed_inj (head?_unsigned x) (head?_unsigned y) h
  have hmagnitude := congrArg magnitude? hunsigned
  rw [magnitude?_unsigned, magnitude?_unsigned] at hmagnitude
  have hdistinct := names.distinct
  cases x <;> cases y <;> simp_all [sign, unsigned]

end Names

/-- The names in the text of a number. -/
def textNames : Names :=
  ⟨['i', 'n', 'f'], ['n', 'a', 'n'], by decide, ⟨rfl, rfl⟩, by decide⟩

lemma toList_text (x : Double) : x.text.toList = signed x.sign (textNames.unsigned x) := by
  cases x with
  | finite negative d => rw [text, String.toList_ofList]; rfl
  | infinite negative => cases negative <;> rfl
  | nan => rfl

/-- A number is known from its text. -/
theorem text_injective : Function.Injective text := by
  intro x y h
  have htext := congrArg String.toList h
  rw [toList_text, toList_text] at htext
  exact Names.eq_of_signed_eq htext

/-- The text of a whole number. -/
lemma toList_toString_int (i : Int) :
    (toString i).toList = signed (decide (i < 0)) (digitsOf i.natAbs) := by
  cases i with
  | ofNat n =>
    have hpos : ¬ Int.ofNat n < 0 := Int.not_lt.2 (Int.natCast_nonneg n)
    rw [decide_eq_false hpos]
    exact Nat.toList_repr
  | negSucc n =>
    rw [decide_eq_true (Int.negSucc_lt_zero n)]
    change ("-" ++ Nat.repr (n + 1)).toList = _
    rw [String.toList_append, Nat.toList_repr]
    rfl

end Double

/-- A whole number can be written if it is below a power of ten. -/
lemma isShort_iff {i : Int} : IsShort i ↔ i.natAbs < 10 ^ maxDigits :=
  Nat.length_toDigits_le_iff (by decide) (by decide)

end Keyring.Number
