/-
# Numbers as JSON

What the encoder writes for a number is read as a number, and it tells which number it was: whole
numbers and double-precision ones never have the same text.

* `IsNumber`: the text is one word, and the word means a number.
* `isNumber_int` and `isNumber_float`: so are the texts that are written.
* `int_injective`, `float_injective` and `int_ne_float`: no two numbers share a text.
-/
import Keyring.Json.Encode
import Keyring.Proofs.Json.Reader
import Keyring.Proofs.Number.Text

namespace Keyring.Json

open Number (Double)
open Number.Double (signed digitsOf)

/-- The text is one word, which means the number with that text. -/
structure IsNumber (cs : List Char) : Prop where
  inWord : ∀ c ∈ cs, inWord c = true
  ofWord_eq : ofWord cs = some (.number (String.ofList cs))

/-- A word that does not begin like the words for truth values and for nothing. -/
lemma IsNumber.of_head {c : Char} {cs : List Char} (hword : ∀ d ∈ c :: cs, Json.inWord d = true)
    (hhead : c ∉ ['n', 't', 'f']) : IsNumber (c :: cs) := by
  have hother : ∀ {d : Char} {ds : List Char}, d ∈ ['n', 't', 'f'] → c :: cs ≠ d :: ds := by
    rintro d ds hd ⟨⟩
    exact hhead hd
  have hnull : c :: cs ≠ "null".toList := hother (by decide)
  have htrue : c :: cs ≠ "true".toList := hother (by decide)
  have hfalse : c :: cs ≠ "false".toList := hother (by decide)
  refine ⟨hword, ?_⟩
  rw [ofWord, if_neg hnull, if_neg htrue, if_neg hfalse, if_neg nofun]

lemma inWord_of_isDigit {c : Char} (h : c.isDigit = true) : inWord c = true := by
  simp [inWord, Char.isAlphanum, h]

lemma not_mem_of_isDigit {c : Char} (h : c.isDigit = true) : c ∉ ['n', 't', 'f'] := by
  intro hmem
  have hall : (['n', 't', 'f'].all fun d => !d.isDigit) = true := by decide
  have hc := List.all_eq_true.1 hall c hmem
  rw [h] at hc
  cases hc

/-- A number may have a sign. -/
lemma isNumber_signed (negative : Bool) {c : Char} {cs : List Char}
    (hword : ∀ d ∈ c :: cs, inWord d = true) (hhead : c ∉ ['n', 't', 'f']) :
    IsNumber (signed negative (c :: cs)) := by
  cases negative with
  | false => exact .of_head hword hhead
  | true =>
    refine .of_head (fun d hd => ?_) (by decide)
    rcases List.mem_cons.1 hd with rfl | hd
    · decide
    · exact hword d hd

/-! ## Whole numbers -/

lemma int_eq (i : Int) : int i = signed (decide (i < 0)) (digitsOf i.natAbs) :=
  Double.toList_toString_int i

lemma head?_digitsOf (n : Nat) : (digitsOf n).head? ≠ some '-' := by
  intro h
  cases Number.Double.allDigits_digitsOf n '-' (List.mem_of_head? h)

theorem isNumber_int (i : Int) : IsNumber (int i) := by
  have hdigits := Number.Double.allDigits_digitsOf i.natAbs
  obtain ⟨c, cs, hcs⟩ : ∃ c cs, digitsOf i.natAbs = c :: cs :=
    List.exists_cons_of_ne_nil Nat.toDigits_ne_nil
  rw [hcs] at hdigits
  rw [int_eq, hcs]
  exact isNumber_signed _ (fun d hd => inWord_of_isDigit (hdigits d hd))
    (not_mem_of_isDigit (hdigits c List.mem_cons_self))

theorem int_injective : Function.Injective int := by
  intro i j h
  rw [int_eq, int_eq] at h
  obtain ⟨hsign, hdigits⟩ := Number.Double.signed_inj (head?_digitsOf _) (head?_digitsOf _) h
  have habs := congrArg Number.Double.natOfDigits hdigits
  rw [Number.Double.natOfDigits_digitsOf, Number.Double.natOfDigits_digitsOf] at habs
  rw [decide_eq_decide] at hsign
  omega

/-! ## Double-precision numbers -/

/-- The names in JSON of the numbers that are not finite. -/
def names : Double.Names :=
  ⟨['I', 'n', 'f', 'i', 'n', 'i', 't', 'y'], ['N', 'a', 'N'], by decide, ⟨rfl, rfl⟩, by decide⟩

lemma float_eq (x : Double) : float x = signed x.sign (names.unsigned x) := by
  cases x with
  | finite negative d => exact Double.toList_text _
  | infinite negative => cases negative <;> rfl
  | nan => rfl

/-- Without its sign, a number is a word that is not all digits. -/
lemma unsigned_spec (x : Double) :
    ∃ c cs, names.unsigned x = c :: cs ∧ c ∉ ['n', 't', 'f'] ∧ (∀ d ∈ c :: cs, inWord d = true)
      ∧ ∃ d ∈ c :: cs, d.isDigit = false := by
  cases x with
  | finite negative d =>
    have hspells := Number.Double.spells_magnitudeText d
    obtain ⟨c, cs, hcs, hc⟩ := hspells.exists_head
    rw [hcs] at hspells
    refine ⟨c, cs, hcs, not_mem_of_isDigit hc, fun d hd => ?_, ?_⟩
    · rcases hspells.mem hd with h | h
      · exact inWord_of_isDigit h
      · have hall : (['.', 'e', '+', '-'].all inWord) = true := by decide
        exact List.all_eq_true.1 hall d h
    · simpa using hspells.not_allDigits
  | infinite negative =>
    exact ⟨'I', _, rfl, by decide, List.all_eq_true.1 (by decide), 'I', by decide, rfl⟩
  | nan =>
    exact ⟨'N', _, rfl, by decide, List.all_eq_true.1 (by decide), 'N', by decide, rfl⟩

theorem isNumber_float (x : Double) : IsNumber (float x) := by
  obtain ⟨c, cs, hcs, hhead, hword, -⟩ := unsigned_spec x
  rw [float_eq, hcs]
  exact isNumber_signed _ hword hhead

theorem float_injective : Function.Injective float := by
  intro x y h
  rw [float_eq, float_eq] at h
  exact Double.Names.eq_of_signed_eq h

/-- A whole number is digits only, which no other number is. -/
theorem int_ne_float (i : Int) (x : Double) : int i ≠ float x := by
  intro h
  rw [int_eq, float_eq] at h
  obtain ⟨-, hdigits⟩ := Number.Double.signed_inj (head?_digitsOf _)
    (Double.Names.head?_unsigned x) h
  obtain ⟨c, cs, hcs, -, -, d, hd, hdigit⟩ := unsigned_spec x
  rw [← hcs, ← hdigits] at hd
  exact absurd (Number.Double.allDigits_digitsOf _ d hd) (Bool.eq_false_iff.1 hdigit)

end Keyring.Json
