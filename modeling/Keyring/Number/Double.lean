/-
# Double-precision numbers

A double-precision number is kept as its sign and the shortest decimal number that rounds to it
(of the shortest ones the nearest), or as an infinity, or as not-a-number.

* `Decimal` is a natural number of digits and a power of ten.  The last digit is never a zero that
  the power could carry, so equal numbers have equal digits and equal powers.
* `nearestBinary` rounds a quotient to 53 binary digits, ties to the even neighbour, with the
  exponents and the range of double precision.
* `Double.ofDecimal` rounds a decimal number; `Double.ofText?` reads decimal text.
* `Double.text` writes a number: positionally from `0.0001` up to sixteen digits before the point,
  else with an exponent of at least two digits.
* `Double.quantity` is the exact value, by which numbers of different kinds are compared.
-/
namespace Keyring.Number

/-! ## Decimal numbers -/

/-- The number `digits · 10 ^ exponent`. -/
structure Decimal where
  digits : Nat
  exponent : Int
  canonical : digits % 10 ≠ 0 ∨ (digits = 0 ∧ exponent = 0)
deriving DecidableEq

namespace Decimal

/-- The decimal number zero. -/
def zero : Decimal := ⟨0, 0, .inr ⟨rfl, rfl⟩⟩

/-- The decimal number `digits · 10 ^ exponent`, with the zeros at the end of the digits moved into
the exponent. -/
def ofScaled (digits : Nat) (exponent : Int) : Decimal :=
  if h0 : digits = 0 then zero
  else if h : digits % 10 ≠ 0 then ⟨digits, exponent, .inl h⟩
  else ofScaled (digits / 10) (exponent + 1)
termination_by digits
decreasing_by omega

/-- Numerator and denominator of the number. -/
def ratio (d : Decimal) : Nat × Nat :=
  if 0 ≤ d.exponent then (d.digits * Nat.pow 10 d.exponent.toNat, 1)
  else (d.digits, Nat.pow 10 (-d.exponent).toNat)

end Decimal

/-! ## Rounding to binary -/

/-- The whole number nearest to `num / den`; a tie goes to the even neighbour. -/
def roundHalfEven (num den : Nat) : Nat :=
  let low := num / den
  let rest := num % den
  if 2 * rest > den || (2 * rest == den && low % 2 == 1) then low + 1 else low

/-- The number `significand · 2 ^ exponent`. -/
structure Binary where
  significand : Nat
  exponent : Int
deriving DecidableEq

namespace Binary

/-- Numerator and denominator of the number. -/
def ratio (b : Binary) : Nat × Nat :=
  if 0 ≤ b.exponent then (b.significand * Nat.pow 2 b.exponent.toNat, 1)
  else (b.significand, Nat.pow 2 (-b.exponent).toNat)

/-- Whether two numbers have the same value. -/
def same (a b : Binary) : Bool :=
  a.ratio.1 * b.ratio.2 == b.ratio.1 * a.ratio.2

end Binary

/-- The double-precision number nearest to `num / den`; none if that is beyond the largest one. -/
def nearestBinary (num den : Nat) : Option Binary :=
  if num = 0 then some ⟨0, 0⟩
  else
    let gap : Int := num.log2 - den.log2
    -- the quotient is at least `2 ^ gap`, or else at least half of that
    let reached : Bool :=
      if 0 ≤ gap then den * Nat.pow 2 gap.toNat ≤ num else den ≤ num * Nat.pow 2 (-gap).toNat
    let exponent := max (-1074) (if reached then gap - 52 else gap - 53)
    let significand :=
      if 0 ≤ exponent then roundHalfEven num (den * Nat.pow 2 exponent.toNat)
      else roundHalfEven (num * Nat.pow 2 (-exponent).toNat) den
    if 0 ≤ exponent && significand * Nat.pow 2 exponent.toNat ≥ Nat.pow 2 1024 then none
    else some ⟨significand, exponent⟩

/-! ## The shortest decimal number -/

/-- The number of decimal digits of `v`. -/
def decimalLength (v : Nat) : Nat :=
  (Nat.toDigits 10 v).length

/-- The most decimal digits that a whole number may have where it is read or written. -/
def maxDigits : Nat := 4300

/-- The whole number has no more digits than are written. -/
def IsShort (i : Int) : Prop := decimalLength i.natAbs ≤ maxDigits

instance : DecidablePred IsShort := fun i => Nat.decLe (decimalLength i.natAbs) maxDigits

/-- The power of ten of the first digit of `num / den`. -/
def leadingPower (num den : Nat) : Int :=
  let guess : Int := decimalLength num - decimalLength den
  let reached : Bool :=
    if 0 ≤ guess then den * Nat.pow 10 guess.toNat ≤ num
    else den ≤ num * Nat.pow 10 (-guess).toNat
  if reached then guess else guess - 1

/-- Whether `digits · 10 ^ exponent` rounds to `b`. -/
def roundsTo (b : Binary) (digits : Nat) (exponent : Int) : Bool :=
  let (num, den) := (Decimal.ofScaled digits exponent).ratio
  match nearestBinary num den with
  | some c => c.same b
  | none => false

/-- Of the two neighbours of `b` on the grid of step `10 ^ exponent`, the nearer one that rounds
to `b`, if one does; a tie goes to the even neighbour. -/
def onGrid (b : Binary) (exponent : Int) : Option Decimal :=
  let (num, den) := b.ratio
  let (num, den) :=
    if 0 ≤ exponent then (num, den * Nat.pow 10 exponent.toNat)
    else (num * Nat.pow 10 (-exponent).toNat, den)
  let low := num / den
  let first := roundHalfEven num den
  let second := if first = low then low + 1 else low
  if roundsTo b first exponent then some (.ofScaled first exponent)
  else if roundsTo b second exponent then some (.ofScaled second exponent)
  else none

/-- The first hit on the grids of `length`, `length + 1`, … digits, of which `more` are tried. -/
def shortestFrom (b : Binary) (power : Int) : (length more : Nat) → Option Decimal
  | _, 0 => none
  | length, more + 1 =>
    match onGrid b (power - length + 1) with
    | some d => some d
    | none => shortestFrom b power (length + 1) more

/-- The shortest decimal number that rounds to `b`; seventeen digits always suffice. -/
def shortest (b : Binary) : Decimal :=
  if b.significand = 0 then .zero
  else
    let (num, den) := b.ratio
    (shortestFrom b (leadingPower num den) 1 17).getD .zero

/-! ## The numbers -/

/-- A double-precision number; a finite one is the shortest decimal number that rounds to it. -/
inductive Double where
  | finite (negative : Bool) (magnitude : Decimal)
  | infinite (negative : Bool)
  | nan
deriving DecidableEq

/-- The exact value of a number. -/
inductive Quantity where
  | ratio (num : Int) (den : Nat)
  | infinite (negative : Bool)
  | unordered

namespace Quantity

/-- The value of a whole number. -/
def ofInt (i : Int) : Quantity := .ratio i 1

/-- Whether two values are equal; a value that is not ordered equals none. -/
def eq : Quantity → Quantity → Bool
  | .ratio a b, .ratio c d => a * d == c * b
  | .infinite s, .infinite t => s == t
  | _, _ => false

/-- Whether the first value is less; a value that is not ordered is neither less nor greater. -/
def lt : Quantity → Quantity → Bool
  | .ratio a b, .ratio c d => a * d < c * b
  | .ratio .., .infinite t => !t
  | .infinite s, .ratio .. => s
  | .infinite s, .infinite t => s && !t
  | _, _ => false

end Quantity

namespace Double

/-- The double-precision number nearest to a decimal number with a sign. -/
def ofDecimal (negative : Bool) (d : Decimal) : Double :=
  let (num, den) := d.ratio
  match nearestBinary num den with
  | some b => .finite negative (shortest b)
  | none => .infinite negative

/-- The exact value. -/
def quantity : Double → Quantity
  | .finite negative d =>
    let (num, den) := d.ratio
    match nearestBinary num den with
    | some b =>
      let (n, m) := b.ratio
      .ratio (if negative then -(n : Int) else n) m
    | none => .infinite negative
  | .infinite negative => .infinite negative
  | .nan => .unordered

/-- The part before the point, as a whole number; none for an infinity or not-a-number. -/
def truncate? (x : Double) : Option Int :=
  match x.quantity with
  | .ratio n d => some (n.tdiv d)
  | _ => none

/-! ## Text -/

/-- The digits of a decimal number above zero with the point placed `point` digits from the left,
from `0.0001` up to sixteen digits before the point; else with an exponent. -/
def layout (digits : List Char) (point : Int) : List Char :=
  let count := digits.length
  if -4 < point ∧ point ≤ 16 then
    if point ≤ 0 then '0' :: '.' :: (List.replicate (-point).toNat '0' ++ digits)
    else if count ≤ point.toNat then
      digits ++ List.replicate (point.toNat - count) '0' ++ ['.', '0']
    else digits.take point.toNat ++ '.' :: digits.drop point.toNat
  else
    let power := point - 1
    let size := Nat.toDigits 10 power.natAbs
    digits.take 1 ++ (if count ≤ 1 then [] else '.' :: digits.drop 1)
      ++ 'e' :: (if power < 0 then '-' else '+')
        :: (if size.length < 2 then '0' :: size else size)

/-- The text of a number. -/
def text : Double → String
  | .finite negative d =>
    let digits := Nat.toDigits 10 d.digits
    let body := if d.digits = 0 then ['0', '.', '0'] else layout digits (digits.length + d.exponent)
    String.ofList (if negative then '-' :: body else body)
  | .infinite negative => if negative then "-inf" else "inf"
  | .nan => "nan"

/-- Splits off the decimal digits at the front. -/
def spanDigits (cs : List Char) : List Char × List Char :=
  cs.span Char.isDigit

/-- The number that ASCII digits spell. -/
def natOfDigits (cs : List Char) : Nat :=
  cs.foldl (fun acc c => acc * 10 + (c.toNat - 48)) 0

/-- Reads an exponent with a sign or without one, or its absence. -/
def exponentOf? : List Char → Option Int
  | [] => some 0
  | e :: rest =>
    if e = 'e' ∨ e = 'E' then
      let (negative, ds) : Bool × List Char :=
        match rest with
        | '-' :: r => (true, r)
        | '+' :: r => (false, r)
        | r => (false, r)
      if ds.isEmpty || !ds.all Char.isDigit then none
      else some (if negative then -(natOfDigits ds : Int) else natOfDigits ds)
    else none

/-- Reads digits, perhaps a point with further digits, and perhaps an exponent. -/
def magnitude? (cs : List Char) : Option Decimal := do
  let (whole, rest) := spanDigits cs
  let (fraction, rest) :=
    match rest with
    | '.' :: r => spanDigits r
    | r => ([], r)
  let power ← exponentOf? rest
  if whole.isEmpty && fraction.isEmpty then none
  else pure (.ofScaled (natOfDigits (whole ++ fraction)) (power - fraction.length))

/-- Reads the text of a number. -/
def ofText? (s : String) : Option Double :=
  let (negative, body) : Bool × List Char :=
    match s.toList with
    | '-' :: r => (true, r)
    | r => (false, r)
  if body = ['i', 'n', 'f'] then some (.infinite negative)
  else if body = ['n', 'a', 'n'] then some .nan
  else (magnitude? body).map (ofDecimal negative)

end Double

end Keyring.Number
