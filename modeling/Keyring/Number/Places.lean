/-
# Numbers to so many places

A quotient of natural numbers in base ten, rounded to so many digits, ties to the even neighbour.

* `fixed` has so many digits behind the point.
* `scientific` has so many digits behind the first one, and an exponent.
* `general` has so many digits in all, without zeros at the end, in the form that suits its size.

With `keepPoint` there is a point even with nothing behind it, and zeros at the end stay.
-/
import Keyring.Number.Double

namespace Keyring.Number

/-- The digits of a number, at least so many. -/
def paddedDigits (base count n : Nat) : List Char :=
  let digits := Nat.toDigits base n
  List.replicate (count - digits.length) '0' ++ digits

/-- Digits before and behind a point. -/
def pointed (keepPoint : Bool) (whole fraction : List Char) : List Char :=
  if fraction.isEmpty && !keepPoint then whole else whole ++ '.' :: fraction

/-- A quotient with so many digits behind the point. -/
def fixed (keepPoint : Bool) (places num den : Nat) : List Char :=
  let digits := paddedDigits 10 (places + 1) (roundHalfEven (num * Nat.pow 10 places) den)
  let whole := digits.length - places
  pointed keepPoint (digits.take whole) (digits.drop whole)

/-- The first digits of a quotient, and the power of ten of the first one. -/
def leadingDigits (count num den : Nat) : List Char × Int :=
  if num = 0 then (List.replicate count '0', 0)
  else
    let power := leadingPower num den
    let shift : Int := count - 1 - power
    let rounded :=
      if 0 ≤ shift then roundHalfEven (num * Nat.pow 10 shift.toNat) den
      else roundHalfEven num (den * Nat.pow 10 (-shift).toNat)
    let digits := Nat.toDigits 10 rounded
    -- nines may have been rounded to a number with one digit more
    if count < digits.length then (digits.take count, power + 1) else (digits, power)

/-- Digits with the point behind the first one, and an exponent of at least two digits. -/
def withExponent (keepPoint : Bool) (digits : List Char) (power : Int) : List Char :=
  pointed keepPoint (digits.take 1) (digits.drop 1)
    ++ 'e' :: (if power < 0 then '-' else '+') :: paddedDigits 10 2 power.natAbs

/-- A quotient with so many digits behind the first one, and an exponent. -/
def scientific (keepPoint : Bool) (places num den : Nat) : List Char :=
  let (digits, power) := leadingDigits (places + 1) num den
  withExponent keepPoint digits power

/-- A quotient with so many digits in all: with an exponent if it is below `0.0001` or has more
digits before the point. -/
def general (keepPoint : Bool) (places num den : Nat) : List Char :=
  let count := max places 1
  let (digits, power) := leadingDigits count num den
  let digits := if keepPoint then digits else (digits.reverse.dropWhile (· == '0')).reverse
  if power < -4 ∨ count ≤ power then withExponent keepPoint digits power
  else if power < 0 then
    pointed keepPoint ['0'] (List.replicate (-power - 1).toNat '0' ++ digits)
  else
    let whole := power.toNat + 1
    pointed keepPoint (digits.take whole ++ List.replicate (whole - digits.length) '0')
      (digits.drop whole)

end Keyring.Number
